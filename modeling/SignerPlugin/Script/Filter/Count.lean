import SignerPlugin.Script.Filter.Basic

/-! Counting lines, words and letters; and counting from one number to another. -/

namespace SignerPlugin.Script.Filter

/-- How many words, parted by space, there are in a text; `within` tells whether one has begun. -/
def countWords : (within : Bool) → Letters → Nat
  | _, [] => 0
  | within, c :: rest =>
    if isSpace c then countWords false rest
    else if within then countWords true rest else 1 + countWords true rest

def wc : Filter :=
  withArguments { flags := "clmwL", long := [("bytes", 'c'), ("chars", 'm'), ("lines", 'l'),
    ("words", 'w')] }
    fun call arguments =>
      let counts (text : Letters) : List (Char × Nat) :=
        [('l', text.count '\n'), ('w', countWords false text), ('m', text.length),
          ('c', text.length), ('L', (text.lines.map List.length).foldl max 0)]
      let chosen (c : Char) : Bool :=
        if arguments.options.isEmpty then ['l', 'w', 'c'].contains c else arguments.has c
      let sources := call.sources arguments.operands
      let found := sources.filterMap fun (name, content) => content.map fun text =>
        (name, ((counts text).filter fun entry => chosen entry.1).map (·.2))
      let single :=
        arguments.operands.length ≤ 1 && (['l', 'w', 'm', 'c', 'L'].filter chosen).length = 1
      let size := (sources.map fun source => (source.2.getD []).length).foldl (· + ·) 0
      let width := if single then 1
        else if drainsFor arguments.operands then max 7 (Letters.ofNat size).length
        else (Letters.ofNat size).length
      let line (name : Letters) (numbers : List Nat) : Letters :=
        let ending := if name.isEmpty then [] else ' ' :: name
        [' '].intercalate (numbers.map fun n => right width (Letters.ofNat n)) ++ ending
      let rows := found.map fun (name, numbers) =>
        line (if arguments.operands.isEmpty then [] else name) numbers
      let total :=
        found.foldl (fun sums entry => if sums.isEmpty then entry.2 else sums.zipWith
        (· + ·) entry.2) []
      let rows := if sources.length ≤ 1 then rows else rows ++ [line "total".toList total]
      { output := Letters.ofLines rows
        status := if sources.all (·.2.isSome) then 0 else 1
        drains := drainsFor arguments.operands }

/-- The numbers from one to another by steps. The fuel bounds them. -/
def steps (step last : Int) : (fuel : Nat) → Int → List Int
  | 0, _ => []
  | fuel + 1, n =>
    if (0 < step && last < n) || (step < 0 && n < last) then [] else n ::
    steps step last fuel (n + step)

/-- A negative number is an operand. -/
def seq : Filter := fun call =>
  let (mark, wide, operands) := options (call.arguments.length + 1) ['\n'] false call.arguments
  let wanted : Option (Int × Int × Int) := do
    match ← operands.mapM Letters.integer? with
    | [last] => return (1, 1, last)
    | [first, last] => return (first, 1, last)
    | [first, step, last] => if step = 0 then none else return (first, step, last)
    | _ => none
  match wanted with
  | none => refusal
  | some (first, step, last) =>
    let numbers := steps step last ((last - first).natAbs / step.natAbs + 1) first
    let texts := numbers.map Letters.ofInt
    let width := (texts.map List.length).foldl max 0
    let texts := if wide then texts.map fun text => List.replicate (width - text.length) '0' ++
      text else texts
    { output := if texts.isEmpty then [] else mark.intercalate texts ++ ['\n'] }
where
  options : (fuel : Nat) → Letters → Bool → List Letters → Letters × Bool × List Letters
    | 0, mark, wide, operands => (mark, wide, operands)
    | fuel + 1, mark, wide, operands => match operands with
      | ['-', 's'] :: mark :: rest => options fuel mark wide rest
      | ('-' :: 's' :: mark) :: rest => options fuel mark wide rest
      | ['-', 'w'] :: rest => options fuel mark true rest
      | operands => (mark, wide, operands)

end SignerPlugin.Script.Filter
