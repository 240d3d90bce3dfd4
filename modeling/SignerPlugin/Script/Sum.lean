import SignerPlugin.Script.Letters

/-! Arithmetic in scripts: whole numbers of 64 bits, which wrap around. -/

namespace SignerPlugin.Script

/-- An arithmetic expression. -/
inductive Sum
  | number (value : Int)
  | variable (name : Letters)
  | unary (sign : Char) (operand : Sum)
  | binary (name : String) (left right : Sum)
  | conditional (test first second : Sum)
  /-- A variable gets a value, which an operation makes of its own one and that of an operand. -/
  | assign (name : Letters) (operation : Option String) (operand : Sum)
  deriving Repr

namespace Sum

/-- The number of 64 bits, of which the first is the sign, that a number wraps around to. -/
def wrap (n : Int) : Int := n.bmod 18446744073709551616

/-- Numbers beyond 64 bits are read as the last one there is. -/
def clamp (n : Int) : Int := max (-9223372036854775808) (min n 9223372036854775807)

def digitValue (c : Char) : Nat :=
  if c.isDigit then c.toNat - 48 else if c.isLower then c.toNat - 87
    else if c.isUpper then c.toNat - 55 else 99

/-- The digits to a base at the start of a text as a number, and what is left. -/
def digits (base : Nat) (text : Letters) : Nat × Letters :=
  let isDigit (c : Char) : Bool := digitValue c < base
  ((text.takeWhile isDigit).foldl (fun sum c => sum * base + digitValue c) 0,
    text.dropWhile isDigit)

/-- The number at the start of a text, which a zero makes octal and a zero with an x hexadecimal. -/
def literal (text : Letters) : Nat × Letters :=
  match text with
  | '0' :: x :: c :: rest =>
    if (x = 'x' || x = 'X') && digitValue c < 16 then digits 16 (c :: rest) else digits 8 text
  | '0' :: _ => digits 8 text
  | _ => digits 10 text

/-- The number that a text writes, with blanks around it. -/
def value? (text : Letters) : Option Int :=
  let text := text.dropWhile isSpace
  let (negated, magnitude) := match text with
    | '-' :: rest => (true, rest)
    | '+' :: rest => (false, rest)
    | rest => (false, rest)
  match magnitude with
  | c :: _ =>
    let (value, rest) := literal magnitude
    if c.isDigit && rest.all isSpace then some (clamp (if negated then -value else value)) else none
  | [] => if text.isEmpty then some 0 else none

inductive Token
  | number (value : Int)
  | name (letters : Letters)
  | sign (name : String)
  deriving DecidableEq, Repr

/-- The signs, those in front that others begin with. -/
def signs : List String :=
  ["<<=", ">>=", "<<", ">>", "<=", ">=", "==", "!=", "&&", "||", "*=", "/=", "%=", "+=", "-=",
    "&=", "^=", "|=", "=", "*", "/", "%", "+", "-", "<", ">", "&", "^", "|", "!", "~", "(",
    ")", "?", ":"]

/-- The tokens of a text. The fuel bounds the letters. -/
def tokens? : (fuel : Nat) → Letters → Option (List Token)
  | 0, _ => none
  | _, [] => some []
  | fuel + 1, c :: rest =>
    if isSpace c then tokens? fuel rest
    else if c.isDigit then
      let (value, rest) := literal (c :: rest)
      return .number (clamp value) :: (← tokens? fuel rest)
    else if startsName c then
      return .name (c :: rest.takeWhile isNameChar) :: (← tokens? fuel (rest.dropWhile isNameChar))
    else do
      let sign ← signs.find? fun sign => sign.toList.isPrefixOf (c :: rest)
      return .sign sign :: (← tokens? fuel ((c :: rest).drop sign.length))

/-- The operations between two operands; a higher level binds closer. -/
def levels : List (String × Nat) :=
  [("||", 1), ("&&", 2), ("|", 3), ("^", 4), ("&", 5), ("==", 6), ("!=", 6), ("<", 7), (">", 7),
    ("<=", 7), (">=", 7), ("<<", 8), (">>", 8), ("+", 9), ("-", 9), ("*", 10), ("/", 10), ("%", 10)]

/-- The operation that an assignment does first. -/
def assignment? (sign : String) : Option (Option String) :=
  if sign = "=" then some none
  else if ["<<=", ">>=", "*=", "/=", "%=", "+=", "-=", "&=", "^=", "|="].contains sign then
    some (some (String.ofList sign.toList.dropLast))
  else none

mutual

/-- A whole expression: an assignment, a choice of two, or operations. -/
def expression : (fuel : Nat) → List Token → Option (Sum × List Token)
  | 0, _ => none
  | fuel + 1, input => match input with
    | .name name :: .sign sign :: rest => match assignment? sign with
      | some operation => do
        let (operand, rest) ← expression fuel rest
        return (.assign name operation operand, rest)
      | none => choice fuel input
    | input => choice fuel input

def choice : (fuel : Nat) → List Token → Option (Sum × List Token)
  | 0, _ => none
  | fuel + 1, input => do
    let (first, rest) ← operand fuel input
    let (test, rest) ← operations fuel 0 first rest
    match rest with
    | .sign "?" :: rest =>
      let (first, rest) ← expression fuel rest
      match rest with
      | .sign ":" :: rest =>
        let (second, rest) ← choice fuel rest
        return (.conditional test first second, rest)
      | _ => none
    | rest => return (test, rest)

/-- The operations behind an operand that bind closer than a level. -/
def operations : (fuel : Nat) → (level : Nat) → Sum → List Token → Option (Sum × List Token)
  | 0, _, _, _ => none
  | fuel + 1, level, left, input => match input with
    | .sign name :: rest => match levels.lookup name with
      | some found =>
        if found ≤ level then some (left, input)
        else do
          let (right, rest) ← operand fuel rest
          let (right, rest) ← operations fuel found right rest
          operations fuel level (.binary name left right) rest
      | none => some (left, input)
    | input => some (left, input)

def operand : (fuel : Nat) → List Token → Option (Sum × List Token)
  | 0, _ => none
  | fuel + 1, input => match input with
    | .number value :: rest => some (.number value, rest)
    | .name name :: rest => some (.variable name, rest)
    | .sign "(" :: rest => do
      match ← expression fuel rest with
      | (inner, .sign ")" :: rest) => return (inner, rest)
      | _ => none
    | .sign name :: rest =>
      match name.toList with
      | [c] =>
        if ['-', '+', '!', '~'].contains c then do
          let (inner, rest) ← operand fuel rest
          return (.unary c inner, rest)
        else none
      | _ => none
    | [] => none

end

/-- The expression that a text writes. A text of blanks is zero. -/
def ofLetters? (text : Letters) : Option Sum := do
  let tokens ← tokens? (text.length + 1) text
  if tokens.isEmpty then return .number 0
  match ← expression (8 * tokens.length + 8) tokens with
  | (sum, []) => return sum
  | _ => none

def ofBool (b : Bool) : Int := if b then 1 else 0

/-- Both numbers as words of 64 bits, put together bit by bit. -/
def bitwise (f : Nat → Nat → Nat) (a b : Int) : Int :=
  wrap (f (a % 18446744073709551616).toNat (b % 18446744073709551616).toNat)

/-- The result of an operation, unless it divides by zero. -/
def result? (name : String) (a b : Int) : Option Int :=
  match name with
  | "+" => some (wrap (a + b))
  | "-" => some (wrap (a - b))
  | "*" => some (wrap (a * b))
  | "/" => if b = 0 then none else some (wrap (Int.tdiv a b))
  | "%" => if b = 0 then none else some (wrap (Int.tmod a b))
  | "<<" => some (wrap (a * (1 <<< (b % 64).toNat : Nat)))
  | ">>" => some (a >>> (b % 64).toNat)
  | "<" => some (ofBool (a < b))
  | ">" => some (ofBool (a > b))
  | "<=" => some (ofBool (a ≤ b))
  | ">=" => some (ofBool (a ≥ b))
  | "==" => some (ofBool (a = b))
  | "!=" => some (ofBool (a ≠ b))
  | "&" => some (bitwise Nat.land a b)
  | "^" => some (bitwise Nat.xor a b)
  | "|" => some (bitwise Nat.lor a b)
  | _ => none

/-- The value of an expression, which may set variables. There is none if a variable is not a
number or something is divided by zero. -/
def eval (look : Letters → Letters) : Sum → StateT (List (Letters × Int)) Option Int
  | .number value => return value
  | .variable name => do
    match (← get).lookup name with
    | some value => return value
    | none => value? (look name)
  | .unary c operand => do
    let value ← eval look operand
    return match c with
      | '-' => wrap (-value)
      | '!' => ofBool (value = 0)
      | '~' => -value - 1
      | _ => value
  | .binary name left right => do
    let a ← eval look left
    if name = "&&" && a = 0 then return 0
    else if name = "||" && a ≠ 0 then return 1
    else
      let b ← eval look right
      if name = "&&" || name = "||" then return ofBool (b ≠ 0) else result? name a b
  | .conditional test first second => do
    if (← eval look test) ≠ 0 then eval look first else eval look second
  | .assign name operation operand => do
    let b ← eval look operand
    let value ← match operation with
      | none => pure b
      | some operation => do
        let a ← eval look (.variable name)
        result? operation a b
    modify fun changes => (name, value) :: changes
    return value

end Sum
end SignerPlugin.Script
