import SignerPlugin.FileTree
import SignerPlugin.Script.Field
import SignerPlugin.Script.Sum

/-! Conditions that the words of a test make up. -/

namespace SignerPlugin.Script.Condition

/-- A condition that cannot be decided. -/
structure Unreadable where
  deriving DecidableEq, Repr

/-- Operators in front of one operand. -/
def unary : List String :=
  ["-b", "-c", "-d", "-e", "-f", "-g", "-G", "-h", "-k", "-L", "-n", "-O", "-p", "-r", "-s",
    "-S", "-t", "-u", "-w", "-x", "-z"]

/-- Operators between two operands. -/
def binary : List String :=
  ["=", "!=", "<", ">", "-eq", "-ne", "-gt", "-ge", "-lt", "-le", "-nt", "-ot", "-ef"]

/-- The number that a word writes in decimal digits. -/
def number (word : Letters) : Except Unreadable Int :=
  let text := word.dropWhile isSpace
  let text := (text.reverse.dropWhile isSpace).reverse
  match Letters.integer? text with
  | some n => .ok n
  | none => .error ⟨⟩

/-- Whether two words stand in the relation that an operator names. -/
def compare (name : String) (a b : Letters) : Except Unreadable Bool :=
  let numbers (relation : Int → Int → Bool) : Except Unreadable Bool := do
    return relation (← number a) (← number b)
  match name with
  | "=" => .ok (a = b)
  | "!=" => .ok (a ≠ b)
  | "<" => .ok (isBefore a b)
  | ">" => .ok (isBefore b a)
  | "-eq" => numbers fun x y => x = y
  | "-ne" => numbers fun x y => x ≠ y
  | "-gt" => numbers fun x y => x > y
  | "-ge" => numbers fun x y => x ≥ y
  | "-lt" => numbers fun x y => x < y
  | "-le" => numbers fun x y => x ≤ y
  | "-ef" => .ok (a = b)
  | _ => .ok false

/-- The devices that are not in the tree. -/
def devices : List String := ["/dev/zero", "/dev/stdin", "/dev/stdout", "/dev/stderr"]

/-- Whether a word is as an operator says. -/
def examine (files : FileTree) (name : String) (word : Letters) : Bool :=
  let isDevice := devices.contains word.toText
  match name, if word.isEmpty then Except.error FileCause.notFound else files.place word.toPath with
  | "-n", _ => !word.isEmpty
  | "-z", _ => word.isEmpty
  | "-c", .ok (.device _) | "-e", .ok (.device _) | "-r", .ok (.device _) | "-w",
    .ok (.device _) => true
  | "-O", .ok (.device _) | "-G", .ok (.device _) => true
  | "-c", _ => isDevice
  | "-e", .ok (.file _ _ _) | "-e", .ok (.directory _) => true
  | "-r", .ok (.file _ _ _) | "-r", .ok (.directory _) => true
  | "-w", .ok (.file _ _ _) | "-w", .ok (.directory _) => true
  | "-O", .ok (.file _ _ _) | "-O", .ok (.directory _) => true
  | "-G", .ok (.file _ _ _) | "-G", .ok (.directory _) => true
  | "-d", .ok (.directory _) => true
  | "-f", .ok (.file _ _ _) => true
  | "-s", .ok (.file _ content _) => !content.isEmpty
  | "-s", .ok (.directory _) => true
  | "-x", .ok (.file _ _ mode) => mode % 2 = 1
  | "-x", .ok (.directory _) => true
  | "-e", _ | "-r", _ | "-w", _ => isDevice
  | _, _ => false

/-- What a word is to a test, given the words behind it. An operator without its operand is a
word. -/
inductive Role
  | finish
  | opening
  | closing
  | negation
  | both
  | either
  | unary (name : String)
  | binary (name : String)
  | operand
  deriving DecidableEq, Repr

def roleOf : List Letters → Role
  | [] => .finish
  | word :: rest =>
    let text := String.ofList word
    if text = "(" then if rest.isEmpty then .operand else .opening
    else if text = ")" then .closing
    else if text = "!" then .negation
    else if text = "-a" then .both
    else if text = "-o" then .either
    else if binary.contains text then .binary text
    else if unary.contains text then
      match rest with
      | [] => .operand
      | second :: third :: _ =>
        if binary.contains (String.ofList second) && third ≠ [')'] then .operand else .unary text
      | _ => .unary text
    else .operand

mutual

/-- A condition of parts of which one must hold, and what is left. -/
def disjunction (files : FileTree) :
    (fuel : Nat) → List Letters → Except Unreadable (Bool × List Letters)
  | 0, _ => .error ⟨⟩
  | fuel + 1, input => do
    let (first, rest) ← conjunction files fuel input
    match roleOf rest with
    | .either =>
      let (second, rest) ← disjunction files fuel (rest.drop 1)
      return (first || second, rest)
    | _ => return (first, rest)

def conjunction (files : FileTree) :
    (fuel : Nat) → List Letters → Except Unreadable (Bool × List Letters)
  | 0, _ => .error ⟨⟩
  | fuel + 1, input => do
    let (first, rest) ← negation files fuel input
    match roleOf rest with
    | .both =>
      let (second, rest) ← conjunction files fuel (rest.drop 1)
      return (first && second, rest)
    | _ => return (first, rest)

def negation (files : FileTree) :
    (fuel : Nat) → List Letters → Except Unreadable (Bool × List Letters)
  | 0, _ => .error ⟨⟩
  | fuel + 1, input =>
    match roleOf input with
    | .negation => do
      let (inner, rest) ← negation files fuel (input.drop 1)
      return (!inner, rest)
    | _ => primary files fuel input

def primary (files : FileTree) :
    (fuel : Nat) → List Letters → Except Unreadable (Bool × List Letters)
  | 0, _ => .error ⟨⟩
  | fuel + 1, input =>
    match roleOf input, input with
    | .finish, _ => .ok (false, [])
    | .opening, _ :: rest =>
      match roleOf rest with
      | .closing => .ok (false, rest.drop 1)
      | _ => do
        let (inner, rest) ← disjunction files fuel rest
        match roleOf rest with
        | .closing => return (inner, rest.drop 1)
        | _ => .error ⟨⟩
    | .unary name, _ :: rest => match rest with
      | word :: rest => .ok (examine files name word, rest)
      | [] => .error ⟨⟩
    | _, first :: rest => match roleOf rest with
      | .binary name => match rest.drop 1 with
        | second :: rest => (compare name first second).map fun holds => (holds, rest)
        | [] => .error ⟨⟩
      | _ => .ok (!first.isEmpty, rest)
    | _, [] => .ok (false, [])

end

/-- Whether the condition holds that words make up. Three words with an operator in the middle
are a comparison, whatever the others are. -/
def holds (files : FileTree) (words : List Letters) : Except Unreadable Bool :=
  let whole (words : List Letters) : Except Unreadable Bool := do
    let (value, rest) ← disjunction files (4 * words.length + 8) words
    if rest.isEmpty then return value else .error ⟨⟩
  match words with
  | [] => .ok false
  | [a, name, b] =>
    if binary.contains (String.ofList name) then compare (String.ofList name) a b
    else if a = ['('] && b = [')'] then .ok (!name.isEmpty)
    else if a = ['!'] then (whole [name, b]).map (!·)
    else whole words
  | ['!'] :: rest => if rest.length = 3 then (holdsOfThree rest).map (!·) else whole words
  | words => whole words
where
  holdsOfThree (words : List Letters) : Except Unreadable Bool :=
    match words with
    | [a, name, b] =>
      if binary.contains (String.ofList name) then compare (String.ofList name) a b
      else do
        let (value, rest) ← disjunction files 32 words
        if rest.isEmpty then return value else .error ⟨⟩
    | _ => .error ⟨⟩

end SignerPlugin.Script.Condition
