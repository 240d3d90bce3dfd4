import SignerPlugin.Bytes

/-! The hash functions that messages can name, with their numbers on the wire, their names and the
lengths of their digests. -/

namespace SignerPlugin

inductive HashFunc
  | md5
  | sha1
  | sha224
  | sha256
  | sha384
  | sha512
  | sha3_224
  | sha3_256
  | sha3_384
  | sha3_512
  | sha512_224
  | sha512_256
  deriving DecidableEq, Repr

namespace HashFunc

/-- All of them, in the order of their numbers. -/
def all : List HashFunc :=
  [.md5, .sha1, .sha224, .sha256, .sha384, .sha512, .sha3_224, .sha3_256, .sha3_384, .sha3_512,
    .sha512_224, .sha512_256]

/-- The number that stands for the function in messages. -/
def id : HashFunc → Nat
  | .md5 => 2
  | .sha1 => 3
  | .sha224 => 4
  | .sha256 => 5
  | .sha384 => 6
  | .sha512 => 7
  | .sha3_224 => 10
  | .sha3_256 => 11
  | .sha3_384 => 12
  | .sha3_512 => 13
  | .sha512_224 => 14
  | .sha512_256 => 15

/-- The name in settings. -/
def name : HashFunc → String
  | .md5 => "MD5"
  | .sha1 => "SHA1"
  | .sha224 => "SHA224"
  | .sha256 => "SHA256"
  | .sha384 => "SHA384"
  | .sha512 => "SHA512"
  | .sha3_224 => "SHA3_224"
  | .sha3_256 => "SHA3_256"
  | .sha3_384 => "SHA3_384"
  | .sha3_512 => "SHA3_512"
  | .sha512_224 => "SHA512_224"
  | .sha512_256 => "SHA512_256"

/-- The name of the algorithm. -/
def algorithm : HashFunc → String
  | .md5 => "md5"
  | .sha1 => "sha1"
  | .sha224 => "sha224"
  | .sha256 => "sha256"
  | .sha384 => "sha384"
  | .sha512 => "sha512"
  | .sha3_224 => "sha3-224"
  | .sha3_256 => "sha3-256"
  | .sha3_384 => "sha3-384"
  | .sha3_512 => "sha3-512"
  | .sha512_224 => "sha512-224"
  | .sha512_256 => "sha512-256"

/-- The length of a digest, in bytes. -/
def digestSize : HashFunc → Nat
  | .md5 => 16
  | .sha1 => 20
  | .sha224 => 28
  | .sha256 => 32
  | .sha384 => 48
  | .sha512 => 64
  | .sha3_224 => 28
  | .sha3_256 => 32
  | .sha3_384 => 48
  | .sha3_512 => 64
  | .sha512_224 => 28
  | .sha512_256 => 32

/-- The function with a number. -/
def ofId? (n : Int) : Option HashFunc := all.find? fun hash => (hash.id : Int) = n

/-- The function with a name of settings. -/
def ofName? (name : String) : Option HashFunc := all.find? fun hash => hash.name = name

/-- The function with an algorithm's name. -/
def ofAlgorithm? (name : String) : Option HashFunc := all.find? fun hash => hash.algorithm = name

@[simp]
theorem ofId?_id (hash : HashFunc) : ofId? hash.id = some hash := by
  cases hash <;> rfl

theorem id_of_ofId? {n : Int} {hash : HashFunc} (found : ofId? n = some hash) :
    (hash.id : Int) = n := by
  simpa using List.find?_some found

/-- What a caller names a hash function by: a number, or the name of an algorithm. -/
inductive Selector
  | number (n : Int)
  /-- A truth value, which counts as the number 0 or 1 but is shown as a word. -/
  | truth (value : Bool)
  | algorithm (name : String)
  deriving Repr

/-- Why nothing is selected. -/
inductive Fault
  | unknownNumber (shown : String)
  | unsupportedAlgorithm (name : String)
  deriving DecidableEq, Repr

def Fault.message : Fault → String
  | .unknownNumber shown => shown ++ " is not a valid HashFunc"
  | .unsupportedAlgorithm name => "Unsupported hash function: " ++ name

/-- The function that a selector means. -/
def select : Selector → Except Fault HashFunc
  | .number n => ((ofId? n).map .ok).getD (.error (.unknownNumber (toString n)))
  | .truth value =>
    ((ofId? (if value then 1 else 0)).map .ok).getD
      (.error (.unknownNumber (if value then "True" else "False")))
  | .algorithm name => ((ofAlgorithm? name).map .ok).getD (.error (.unsupportedAlgorithm name))

end HashFunc
end SignerPlugin
