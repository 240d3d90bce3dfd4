import SignerPlugin.Script.Filter.Basic

/-! Sorting lines, and leaving out those that follow equal ones. -/

namespace SignerPlugin.Script.Filter

/-- The number at the start of a line, in thousandths of which only the first three digits count. -/
def leading (line : Letters) : Int :=
  let text := line.dropWhile isBlank
  let (negated, text) := match text with
    | '-' :: rest => (true, rest)
    | rest => (false, rest)
  let whole := text.takeWhile Char.isDigit
  let rest := text.drop whole.length
  let fraction := match rest with
    | '.' :: rest => rest.takeWhile Char.isDigit
    | _ => []
  let digits := whole ++ (fraction ++ ['0', '0', '0', '0', '0', '0', '0', '0', '0']).take 9
  let value : Int := ((Letters.number? digits).getD 0 : Nat)
  if negated then -value else value

/-- Whether a text comes no later than another one, letter by letter. -/
def isNoLater : Letters → Letters → Bool
  | [], _ => true
  | _ :: _, [] => false
  | a :: as, b :: bs => if a = b then isNoLater as bs else a.toNat < b.toNat

/-- A list without the repetitions that follow each other. -/
def unrepeated (same : Letters → Letters → Bool) : List Letters → List Letters
  | [] => []
  | line :: rest => match unrepeated same rest with
    | next :: more => if same line next then line :: more else line :: next :: more
    | [] => [line]

def sort : Filter :=
  withArguments { flags := "runfbs", long := [("reverse", 'r'), ("unique", 'u'),
    ("numeric-sort", 'n'), ("ignore-case", 'f')] }
    fun call arguments =>
      let folded (line : Letters) : Letters :=
        if arguments.has 'f' then line.map Char.toUpper else line
      let equal (a b : Letters) : Bool :=
        if arguments.has 'n' then leading a = leading b else folded a = folded b
      let before (a b : Letters) : Bool :=
        if arguments.has 'n' then leading a < leading b else !isNoLater (folded b) (folded a)
      let order (a b : Letters) : Bool :=
        if equal a b then arguments.has 'u' || arguments.has 's' ||
          (if arguments.has 'r' then isNoLater b a else isNoLater a b)
        else before a b != arguments.has 'r'
      overAll call arguments.operands fun text =>
        let sorted := text.lines.mergeSort order
        Letters.ofLines (if arguments.has 'u' then unrepeated equal sorted else sorted)

/-- Lines with the number of times that they follow each other. -/
def counted (same : Letters → Letters → Bool) : List Letters → List (Letters × Nat)
  | [] => []
  | line :: rest => match counted same rest with
    | (next, n) :: more =>
      if same line next then (line, n + 1) :: more else (line, 1) :: (next, n) :: more
    | [] => [(line, 1)]

def uniq : Filter :=
  withArguments { flags := "cdui", long := [("count", 'c'), ("repeated", 'd'),
    ("unique", 'u')] } fun call arguments =>
    let folded (line : Letters) : Letters :=
      if arguments.has 'i' then line.map Char.toLower else line
    overAll call (arguments.operands.take 1) fun text =>
      let groups := (counted (fun a b => folded a = folded b) text.lines).filter fun (_, n) =>
        (!arguments.has 'd' || n > 1) && (!arguments.has 'u' || n = 1)
      Letters.ofLines (groups.map fun (line, n) =>
        if arguments.has 'c' then right 7 (Letters.ofNat n) ++ ' ' :: line else line)

end SignerPlugin.Script.Filter
