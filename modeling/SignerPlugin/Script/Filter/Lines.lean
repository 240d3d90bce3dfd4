import SignerPlugin.Script.Filter.Basic

/-! Utilities that pass lines on: all or the first or last of them, in another order, or with
numbers. -/

namespace SignerPlugin.Script.Filter

/-- The text between the ends of a list, each with a sign behind. -/
def numbered (from_ : Nat) (onlyFilled : Bool) : (rows : List Letters) → Letters
  | [] => []
  | row :: rows =>
    if onlyFilled && row = ['\n'] then row ++ numbered from_ onlyFilled rows
    else right 6 (Letters.ofNat from_) ++ '\t' :: row ++ numbered (from_ + 1) onlyFilled rows

def cat : Filter :=
  withArguments { flags := "unb", long := [("number", 'n')] } fun call arguments =>
    if arguments.has 'b' then overAll call arguments.operands fun text => numbered 1 true text.rows
    else if arguments.has 'n' then overAll call arguments.operands fun text =>
      numbered 1 false text.rows
    else overEach call arguments.operands id

/-- Several sources are told apart by their names. -/
def titled (call : Call) (operands : List Letters) (quiet : Bool) (make : Letters → Letters) :
    Reply :=
  let reply := overEach call operands make
  if quiet || operands.length ≤ 1 then reply
  else
    let parts := (call.sources operands).filterMap fun (name, content) => content.map fun text =>
      let name := if isInput name then "standard input".toList else name
      "==> ".toList ++ name ++ " <==\n".toList ++ make text
    { reply with output := ['\n'].intercalate parts }

def head : Filter :=
  let long := [("lines", 'n'), ("bytes", 'c'), ("quiet", 'q')]
  withArguments { flags := "qvz", valued := "nc", number := some 'n', long } fun call arguments =>
    let kind := ((arguments.options.reverse.find? fun o => o.1 = 'n' || o.1 = 'c').map
      (·.1)).getD 'n'
    let written := (arguments.value? kind).getD ['1', '0']
    let (back, digits) := match written with
      | '-' :: digits => (true, digits)
      | digits => (false, digits)
    match quantity? digits with
    | none => refusal
    | some count =>
      let cut (text : Letters) : Letters :=
        if kind = 'c' then text.take (if back then text.length - count else count)
        else
          let rows := text.rows
          (rows.take (if back then rows.length - count else count)).flatten
      let isExact := kind = 'c' && !back || call.rewinds
      { titled call arguments.operands (arguments.has 'q') cut with
        most := if isExact then some (cut call.input).length else none }

def tail : Filter :=
  let long := [("lines", 'n'), ("bytes", 'c'), ("quiet", 'q')]
  withArguments { flags := "qvzf", valued := "nc", number := some 'n', long } fun call arguments =>
    let kind := ((arguments.options.reverse.find? fun o => o.1 = 'n' || o.1 = 'c').map
      (·.1)).getD 'n'
    let written := (arguments.value? kind).getD ['1', '0']
    let (onward, digits) := match written with
      | '+' :: digits => (true, digits)
      | '-' :: digits => (false, digits)
      | digits => (false, digits)
    match quantity? digits with
    | none => refusal
    | some count =>
      titled call arguments.operands (arguments.has 'q') fun text =>
        if kind = 'c' then text.drop (if onward then count - 1 else text.length - count)
        else
          let rows := text.rows
          (rows.drop (if onward then count - 1 else rows.length - count)).flatten

def rev : Filter :=
  withArguments {} fun call arguments =>
    overEach call arguments.operands fun text => text.rows.flatMap fun row =>
      if row.getLast? = some '\n' then row.dropLast.reverse ++ ['\n'] else row.reverse

def tac : Filter :=
  withArguments {} fun call arguments =>
    overEach call arguments.operands fun text => text.rows.reverse.flatten

def nl : Filter :=
  withArguments { valued := "b" } fun call arguments =>
    overAll call arguments.operands fun text =>
      text.lines.zipIdx.foldl
        (fun (sum : Letters × Nat) entry =>
          if entry.1.isEmpty && arguments.value? 'b' ≠
            some ['a'] then (sum.1 ++ "       \n".toList, sum.2)
          else (sum.1 ++ right 6 (Letters.ofNat sum.2) ++ '\t' :: entry.1 ++ ['\n'], sum.2 + 1))
        ([], 1) |>.1

def fold : Filter :=
  withArguments { flags := "bs", valued := "w", number := some 'w' } fun call arguments =>
    match Letters.number? ((arguments.value? 'w').getD ['8', '0']) with
    | some (width + 1) =>
      overEach call arguments.operands fun text => text.rows.flatMap fun row =>
        let line := row.filter (· ≠ '\n')
        let parts := if line.isEmpty then [[]] else grouped (width + 1) (line.length + 1) line
        ['\n'].intercalate parts ++ row.filter (· = '\n')
    | _ => refusal

/-- Lines of several sources joined one by one; or all lines of each. The fuel bounds the lines. -/
def pasted (mark : Letters) : (fuel : Nat) → List (List Letters) → List Letters
  | 0, _ => []
  | fuel + 1, columns =>
    if columns.all (·.isEmpty) then []
    else mark.intercalate (columns.map fun column => column.head?.getD []) ::
      pasted mark fuel (columns.map (·.drop 1))

/-- Every `count`th element of a list, from the first on. The fuel bounds the elements. -/
def everyNth {α : Type} (count : Nat) : (fuel : Nat) → List α → List α
  | 0, _ | _, [] => []
  | fuel + 1, first :: rest => first :: everyNth count fuel (rest.drop (count - 1))

/-- The columns that operands name. Those that name the input share its lines. -/
def columnsOf (call : Call) (operands : List Letters) : List (List Letters) :=
  let shared := (operands.filter isInput).length
  let lines := call.input.lines
  let column (operand : Letters) (place : Nat) : List Letters :=
    if isInput operand then everyNth shared (lines.length + 1) (lines.drop place)
    else ((call.file? operand).getD []).lines
  (operands.foldl
    (fun (columns, place) operand =>
      (columns ++ [column operand place], if isInput operand then place + 1 else place))
    (([] : List (List Letters)), 0)).1

def paste : Filter :=
  withArguments { flags := "s", valued := "d" } fun call arguments =>
    let mark := ((arguments.value? 'd').getD ['\t']).take 1
    let operands := if arguments.operands.isEmpty then [['-']] else arguments.operands
    let columns := columnsOf call operands
    let rows := if arguments.has 's' then columns.map mark.intercalate
      else pasted mark ((columns.map List.length).foldl max 0 + 1) columns
    { output := Letters.ofLines rows
      status := if (call.sources operands).all (·.2.isSome) then 0 else 1
      drains := drainsFor operands }

/-- How far two texts are the same: the number of letters and of line ends. -/
def common : Letters → Letters → Nat × Nat
  | a :: as, b :: bs =>
    if a = b then
      let (letters, lines) := common as bs
      (letters + 1, if a = '\n' then lines + 1 else lines)
    else (0, 0)
  | _, _ => (0, 0)

/-- Tells where two sources differ first. -/
def cmp : Filter :=
  withArguments { flags := "s", long := [("quiet", 's'), ("silent", 's')] } fun call arguments =>
    match call.sources arguments.operands with
    | [(a, some first), (b, some second)] =>
      let drains := drainsFor arguments.operands
      let (letters, lines) := common first second
      if first = second then { drains }
      else if arguments.has 's' || letters =
        min first.length second.length then { status := 1, drains }
      else
        let place := "byte ".toList ++ Letters.ofNat (letters + 1) ++ ", line ".toList ++
          Letters.ofNat (lines + 1)
        { output := a ++ ' ' :: b ++ " differ: ".toList ++ place ++ ['\n'], status := 1, drains }
    | _ => { status := 2 }

end SignerPlugin.Script.Filter
