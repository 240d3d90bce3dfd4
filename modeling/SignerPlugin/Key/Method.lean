import SignerPlugin.Key.CurveDomain

/-! Methods: what a key is for, and how something was made. A method has an identifier, and
that says which parameter there must be. Methods that are not known may have any. -/

namespace SignerPlugin.Key

/-- An identifier, and what else there is to say. -/
structure Method where
  identifier : Bytes
  parameter : Option Der.Element
  deriving DecidableEq, Repr

namespace Method

/-- The identifiers of kinds of keys. -/
def ec : Bytes := [0x2a, 0x86, 0x48, 0xce, 0x3d, 0x02, 0x01]
def ed25519 : Bytes := [0x2b, 0x65, 0x70]
def x25519 : Bytes := [0x2b, 0x65, 0x6e]
def rsa : Bytes := [0x2a, 0x86, 0x48, 0x86, 0xf7, 0x0d, 0x01, 0x01, 0x01]

/-- RSA keys that are meant for salted signatures. -/
def saltedRsa : Bytes := [0x2a, 0x86, 0x48, 0x86, 0xf7, 0x0d, 0x01, 0x01, 0x0a]

/-- The finding of a common secret, with the prime first or last but one. -/
def exchange : Bytes := [0x2a, 0x86, 0x48, 0x86, 0xf7, 0x0d, 0x01, 0x03, 0x01]
def exchangeInGroup : Bytes := [0x2a, 0x86, 0x48, 0xce, 0x3e, 0x02, 0x01]

/-- Signatures in a group of remainders. -/
def groupSignature : Bytes := [0x2a, 0x86, 0x48, 0xce, 0x38, 0x04, 0x01]

/-- Methods without a parameter: keys on Edwards curves, and signatures on other curves with
the newest digests. -/
def bare : List Bytes :=
  [ed25519, x25519, [0x2b, 0x65, 0x71], [0x2b, 0x65, 0x6f],
    [0x60, 0x86, 0x48, 0x01, 0x65, 0x03, 0x04, 0x03, 0x09],
    [0x60, 0x86, 0x48, 0x01, 0x65, 0x03, 0x04, 0x03, 0x0a],
    [0x60, 0x86, 0x48, 0x01, 0x65, 0x03, 0x04, 0x03, 0x0b],
    [0x60, 0x86, 0x48, 0x01, 0x65, 0x03, 0x04, 0x03, 0x0c]]

/-- Methods that a digest is part of: the beginning of their identifiers, and how these may end. -/
private def ofDigests : List (Bytes × List UInt8) :=
  [([0x2b, 0x0e, 0x03, 0x02], [0x1a, 0x1d]),
    ([0x60, 0x86, 0x48, 0x01, 0x65, 0x03, 0x04, 0x02], [1, 2, 3, 4, 7, 8, 9, 10]),
    ([0x60, 0x86, 0x48, 0x01, 0x65, 0x03, 0x04, 0x03], [1, 2, 3, 4, 13, 14, 15, 16]),
    ([0x2a, 0x86, 0x48, 0xce, 0x3d, 0x04], [1]),
    ([0x2a, 0x86, 0x48, 0xce, 0x3d, 0x04, 0x03], [1, 2, 3, 4]),
    ([0x2a, 0x86, 0x48, 0x86, 0xf7, 0x0d, 0x01, 0x01], [5, 11, 12, 13, 14]),
    ([0x2a, 0x86, 0x48, 0x86, 0xf7, 0x0d, 0x02], [7, 8, 9, 10, 11])]

/-- Methods whose parameter, if there is one, says nothing. -/
def plain : List Bytes := rsa :: ofDigests.flatMap fun (start, ends) => ends.map fun last =>
  start ++ [last]

/-- Encryption with a password, and the making of a key from one. -/
def encryption : Bytes := [0x2a, 0x86, 0x48, 0x86, 0xf7, 0x0d, 0x01, 0x05, 0x0d]
def derivation : Bytes := [0x2a, 0x86, 0x48, 0x86, 0xf7, 0x0d, 0x01, 0x05, 0x0c]
def costlyDerivation : Bytes := [0x2b, 0x06, 0x01, 0x04, 0x01, 0xda, 0x47, 0x04, 0x0b]

/-- Encryption with a password in one step. -/
def oldEncryption : List Bytes :=
  [3, 6].map fun last => [0x2a, 0x86, 0x48, 0x86, 0xf7, 0x0d, 0x01, 0x0c, 0x01] ++ [last]

/-- A cipher with a key of any length. -/
def variableCipher : Bytes := [0x2a, 0x86, 0x48, 0x86, 0xf7, 0x0d, 0x03, 0x02]

/-- Other ciphers, each with the length of its first block. -/
def cipherBlocks : List (Bytes × Nat) :=
  [([0x60, 0x86, 0x48, 0x01, 0x65, 0x03, 0x04, 0x01, 0x02], 16),
    ([0x60, 0x86, 0x48, 0x01, 0x65, 0x03, 0x04, 0x01, 0x16], 16),
    ([0x60, 0x86, 0x48, 0x01, 0x65, 0x03, 0x04, 0x01, 0x2a], 16),
    ([0x2a, 0x86, 0x48, 0x86, 0xf7, 0x0d, 0x03, 0x07], 8)]

/-- The identifier and the parameter in an element, not yet looked at together. -/
def draft? (element : Der.Element) : Option Method := do
  match ← element.parts? with
  | [identifier] => return ⟨← identifier.identifier?, none⟩
  | [identifier, parameter] => return ⟨← identifier.identifier?, some parameter⟩
  | _ => none

/-- Whether an element is a number of at most so many bits. -/
def isWord (bits : Nat) (element : Der.Element) : Bool := element.nat?.any (· < Nat.pow 2 bits)

def isOctets (element : Der.Element) : Bool := element.tag = Der.Tag.octetString

def isNumber (element : Der.Element) : Bool := element.nat?.isSome

/-- Whether elements are some numbers and then maybe more of another form. -/
def areNumbers : (count : Nat) → (rest : List Der.Element → Bool) → List Der.Element → Bool
  | 0, rest, elements => rest elements
  | _ + 1, _, [] => false
  | count + 1, rest, element :: elements => isNumber element && areNumbers count rest elements

/-- Whether elements are at most one, of the form that is asked for. -/
def isMaybe (hasForm : Der.Element → Bool) (elements : List Der.Element) : Bool :=
  elements.length ≤ 1 && elements.all hasForm

/-- What may follow the three numbers of a group: a factor, and how the numbers were found. -/
def isOrigin (elements : List Der.Element) : Bool :=
  let rest := match elements with
    | factor :: more => if isNumber factor then more else elements
    | [] => []
  isMaybe (fun element => match element.parts? with
    | some [seed, counter] => seed.bits?.isSome && isNumber counter
    | _ => false) rest

/-- A part that may be left out: its tag, the form that it has, and what holds without it. -/
structure OptionalPart where
  tag : UInt8
  hasForm : Der.Element → Bool
  standard : Bytes

/-- Whether elements are some of the parts that there may be, in order. None says what holds
without it. -/
def areParts : List OptionalPart → List Der.Element → Bool
  | [], elements => elements.isEmpty
  | _, [] => true
  | part :: parts, element :: elements =>
    if element.tag = part.tag then
      ((element.inside? part.tag).any fun inner => part.hasForm inner && inner.write ≠
        part.standard) &&
        areParts parts elements
    else areParts parts (element :: elements)

/-- What there is to say of salted signatures: the hash function, the mask that is made with
one, the length of the salt, and the trailer. `isMethod` tells methods that are parts of this
one. -/
def saltParts (isMethod : Der.Element → Bool) : List OptionalPart :=
  let hash := Der.sequence [Der.identifier [0x2b, 0x0e, 0x03, 0x02, 0x1a], Der.null]
  let mask := Der.sequence
    [Der.identifier [0x2a, 0x86, 0x48, 0x86, 0xf7, 0x0d, 0x01, 0x01, 0x08], hash]
  [⟨Der.Tag.part 0, isMethod, hash⟩,
    ⟨Der.Tag.part 1, fun element => (draft? element).any fun found => found.parameter.any
      isMethod, mask⟩, ⟨Der.Tag.part 2, isWord 16, Der.integer 20⟩,
    ⟨Der.Tag.part 3, isWord 8, Der.integer 1⟩]

/-- Whether elements say how a key is made from a password: the salt, the number of rounds,
and maybe the length of the key and the method of the rounds. That method is not said when it
is the usual one. -/
def areDerivation (isMethod : Der.Element → Bool) : List Der.Element → Bool
  | salt :: rounds :: rest =>
    let round := match rest with
      | length :: more => if isWord 64 length then more else rest
      | [] => []
    let usual :=
      Der.sequence [Der.identifier [0x2a, 0x86, 0x48, 0x86, 0xf7, 0x0d, 0x02, 0x07], Der.null]
    isOctets salt && isWord 64 rounds &&
      isMaybe (fun element => isMethod element && element.write ≠ usual) round
  | _ => false

/-- Whether elements say how a key is made from a password at great cost: the salt, three
measures of the cost, and maybe the length of the key. -/
def areCostlyDerivation : List Der.Element → Bool
  | salt :: cost :: size :: width :: length =>
    isOctets salt && isWord 64 cost && isWord 64 size && isWord 64 width &&
      isMaybe (isWord 32) length
  | _ => false

/-- Whether the parameter is one that the method can have. `isMethod` tells methods that are
parts of this one. -/
def isSound (isMethod : Der.Element → Bool) (method : Method) : Bool :=
  let parts (areRight : List Der.Element → Bool) : Bool :=
    method.parameter.any fun found => found.parts?.any areRight
  if method.identifier = ec then method.parameter.any fun found =>
    (CurveDomain.ofElement? found).isSome
  else if bare.contains method.identifier then method.parameter.isNone
  else if plain.contains method.identifier then method.parameter.all (·.isNull)
  else if method.identifier = saltedRsa then method.parameter.isNone ||
    parts (areParts (saltParts isMethod))
  else if method.identifier = groupSignature then parts (areNumbers 3 (·.isEmpty))
  else if method.identifier = exchange then parts (areNumbers 2 (isMaybe (isWord 32)))
  else if method.identifier = exchangeInGroup then parts (areNumbers 3 isOrigin)
  else if method.identifier = encryption then parts fun elements => elements.length =
    2 && elements.all isMethod
  else if method.identifier = derivation then parts (areDerivation isMethod)
  else if method.identifier = costlyDerivation then parts areCostlyDerivation
  else if oldEncryption.contains method.identifier then
    parts fun
      | [salt, rounds] => isOctets salt && isWord 64 rounds
      | _ => false
  else if method.identifier = variableCipher then
    parts fun
      | [block] => isOctets block && block.content.length = 8
      | [version, block] => isWord 32 version && isOctets block && block.content.length = 8
      | _ => false
  else match cipherBlocks.lookup method.identifier with
    | some length =>
      method.parameter.any fun found => isOctets found && found.content.length = length
    | none => true

/-- Whether an element is a method; `depth` bounds how deep methods are parts of methods. -/
def isMethod : (depth : Nat) → Der.Element → Bool
  | 0, _ => false
  | depth + 1, element => (draft? element).any (isSound (isMethod depth))

/-- The method in an element. -/
def ofElement? (element : Der.Element) : Option Method :=
  if isMethod (element.content.length + 1) element then draft? element else none

end Method
end SignerPlugin.Key
