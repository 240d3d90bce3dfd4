import SignerPlugin.Script.Filter.Basic
import SignerPlugin.Script.Format
import SignerPlugin.Script.Pattern

/-! Utilities that select or replace letters, and parts of lines. -/

namespace SignerPlugin.Script.Filter

/-- All letters between two. -/
def between (first last : Char) : Letters :=
  (List.range (last.toNat + 1 - first.toNat)).map fun i => Char.ofNat (first.toNat + i)

/-- The letters that a text lists, with ranges, classes and escapes. The fuel bounds the letters. -/
def listed : (fuel : Nat) → Letters → Letters
  | 0, _ | _, [] => []
  | fuel + 1, c :: rest =>
    let (first, rest) := if c = '\\' then Format.escape rest else (c, rest)
    match Pattern.className? ((c :: rest).map fun c => ⟨c, false⟩) with
    | some (name, left) =>
      (between '\x00' '\xff').filter (classOf name) ++ listed fuel (left.map (·.letter))
    | none => match rest with
      | '-' :: last :: left =>
        if first ≤ last then between first last ++ listed fuel left else first :: listed fuel rest
      | rest => first :: listed fuel rest

/-- A text in which several of one letter of a set in a row are made one. -/
def squeeze (set : Letters) : (before : Option Char) → Letters → Letters
  | _, [] => []
  | before, c :: rest =>
    if before = some c && set.contains c then squeeze set before rest else c ::
      squeeze set (some c) rest

def tr : Filter :=
  withArguments { flags := "cCdst", long := [("delete", 'd'), ("squeeze-repeats", 's'),
    ("complement", 'c')] }
    fun call arguments =>
      let sets := arguments.operands.map fun text => listed (text.length + 1) text
      let source := sets.head?.getD []
      let source := if arguments.has 'c' || arguments.has 'C'
        then (between '\x00' '\xff').filter fun c => !source.contains c else source
      let target := (sets[1]?).getD []
      let needed := if arguments.has 'd' = arguments.has 's' then 2 else 1
      if arguments.operands.isEmpty || arguments.operands.length > 2 ||
          (!arguments.has 's' && arguments.operands.length ≠
            (if arguments.has 'd' then 1 else needed)) then refusal
      else
        let text := call.input
        let kept := if arguments.has 'd' then text.filter fun c => !source.contains c
          else if sets.length < 2 then text
          else
            let replacement (c : Char) : Char := match source.idxOf? c with
              | some i => (target[i]?).getD ((target.getLast?).getD c)
              | none => c
            text.map replacement
        let output := if arguments.has 's' then
            squeeze (if sets.length = 2 then target else source) none kept
          else kept
        { output, drains := true }

/-- The places that a list of numbers and ranges names; a range may be open. -/
def places? (text : Letters) : Option (List (Nat × Option Nat)) :=
  (text.splitOn ',').mapM fun part =>
    match part.splitOn '-' with
    | [n] => (Letters.number? n).map fun n => (n, some n)
    | [[], last] => (Letters.number? last).map fun last => (1, some last)
    | [first, []] => (Letters.number? first).map fun first => (first, none)
    | [first, last] => do
      let first ← Letters.number? first
      let last ← Letters.number? last
      if last < first then none else return (first, some last)
    | _ => none

def isAt (places : List (Nat × Option Nat)) (n : Nat) : Bool :=
  places.any fun (first, last) => first ≤ n && last.all (n ≤ ·)

def cut : Filter :=
  withArguments { flags := "sn", valued := "cbfd", long := [("delimiter", 'd'), ("fields", 'f'),
    ("characters", 'c'), ("bytes", 'b'), ("only-delimited", 's')] }
    fun call arguments =>
      let mark := ((arguments.value? 'd').getD ['\t']).head?.getD '\x00'
      let byLetter := (arguments.value? 'c').or (arguments.value? 'b')
      let select {α : Type} (places : List (Nat × Option Nat)) (items : List α) : List α :=
        (items.zipIdx 1).filterMap fun (item, n) => if isAt places n then some item else none
      match byLetter.bind places?, (arguments.value? 'f').bind places? with
      | some places, none =>
        overEach call arguments.operands fun text =>
          Letters.ofLines (text.lines.map (select places))
      | none, some places =>
        overEach call arguments.operands fun text =>
          Letters.ofLines (text.lines.filterMap fun line =>
            if !line.contains mark then if arguments.has 's' then none else some line
            else some ([mark].intercalate (select places (line.splitOn mark))))
      | _, _ => refusal

end SignerPlugin.Script.Filter
