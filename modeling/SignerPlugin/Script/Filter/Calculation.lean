import SignerPlugin.Script.Filter.Basic
import SignerPlugin.Script.Filter.Order
import SignerPlugin.Script.Regular

/-! Calculating with numbers and texts that stand in arguments of their own. -/

namespace SignerPlugin.Script.Filter

/-- Whether a value counts as false. -/
def isNull (value : Letters) : Bool :=
  value.isEmpty || (Letters.integer? value = some 0)

/-- The operations by how close they bind. -/
def operationLevel : String → Option Nat
  | "|" => some 1
  | "&" => some 2
  | "<" | "<=" | "=" | "==" | "!=" | ">=" | ">" => some 3
  | "+" | "-" => some 4
  | "*" | "/" | "%" => some 5
  | ":" => some 6
  | _ => none

/-- The part of a text that a pattern takes from its beginning: its first group, or the number
of letters. -/
def taken? (text pattern : Letters) : Option Letters := do
  let regular ← Regular.ofLetters? false pattern
  let hasGroup := (Letters.endings pattern).any fun ending => ['\\', '('].isPrefixOf ending
  match (Regular.both .start regular).search? false none text with
  | some found =>
    return if hasGroup then (found.captures.lookup 1).getD [] else Letters.ofNat found.text.length
  | none => return if hasGroup then [] else ['0']

/-- The result of an operation. There is none of something that is not a number, or divided by
zero. -/
def operate? (name : String) (a b : Letters) : Option Letters :=
  let truth (b : Bool) : Letters := if b then ['1'] else ['0']
  let order : Int := match Letters.integer? a, Letters.integer? b with
    | some x, some y => x - y
    | _, _ => if a = b then 0 else if isNoLater a b then -1 else 1
  let calculate (f : Int → Int → Option Int) : Option Letters := do
    return Letters.ofInt (← f (← Letters.integer? a) (← Letters.integer? b))
  match name with
  | "|" => some (if !isNull a then a else if !isNull b then b else ['0'])
  | "&" => some (if !isNull a && !isNull b then a else ['0'])
  | "<" => some (truth (order < 0))
  | "<=" => some (truth (order ≤ 0))
  | "=" | "==" => some (truth (order = 0))
  | "!=" => some (truth (order ≠ 0))
  | ">=" => some (truth (order ≥ 0))
  | ">" => some (truth (order > 0))
  | "+" => calculate fun x y => some (x + y)
  | "-" => calculate fun x y => some (x - y)
  | "*" => calculate fun x y => some (x * y)
  | "/" => calculate fun x y => if y = 0 then none else some (Int.tdiv x y)
  | "%" => calculate fun x y => if y = 0 then none else some (Int.tmod x y)
  | ":" => taken? a b
  | _ => none

mutual

/-- The value of operations that bind closer than a level, and what is left. -/
def calculated? : (fuel : Nat) → (level : Nat) → List Letters → Option (Letters × List Letters)
  | 0, _, _ => none
  | fuel + 1, level, input => do
    let (first, rest) ← simple? fuel input
    further? fuel level first rest

def further? : (fuel : Nat) → (level : Nat) → Letters → List Letters →
    Option (Letters × List Letters)
  | 0, _, _, _ => none
  | fuel + 1, level, left, input => match input with
    | name :: rest => match operationLevel (String.ofList name) with
      | some found =>
        if found ≤ level then some (left, input)
        else do
          let (right, rest) ← calculated? fuel found rest
          further? fuel level (← operate? (String.ofList name) left right) rest
      | none => some (left, input)
    | [] => some (left, [])

def simple? : (fuel : Nat) → List Letters → Option (Letters × List Letters)
  | 0, _ => none
  | fuel + 1, input => match input with
    | ['('] :: rest => do
      match ← calculated? fuel 0 rest with
      | (value, [')'] :: rest) => return (value, rest)
      | _ => none
    | word :: rest => match String.ofList word, rest with
      | "length", text :: rest => some (Letters.ofNat text.length, rest)
      | "match", text :: pattern :: rest => (taken? text pattern).map fun value => (value, rest)
      | "substr", text :: first :: count :: rest =>
        some (match Letters.number? first, Letters.number? count with
          | some (first + 1), some count => ((text.drop first).take count, rest)
          | _, _ => ([], rest))
      | "index", text :: letters :: rest =>
        let place := (text.findIdx? letters.contains).map (· + 1)
        some (Letters.ofNat (place.getD 0), rest)
      | _, rest => some (word, rest)
    | [] => none

end

/-- The status tells whether the value counts as false. -/
def expr : Filter := fun call =>
  match calculated? (4 * call.arguments.length + 8) 0 call.arguments with
  | some (value, []) => { output := value ++ ['\n'], status := if isNull value then 1 else 0 }
  | _ => { status := 2 }

end SignerPlugin.Script.Filter
