import SignerPlugin.CryptoSigner
import SignerPlugin.FileTree
import SignerPlugin.Key.Suite
import SignerPlugin.KeyResource
import SignerPlugin.Message.Request
import SignerPlugin.Signer

/-! Keys in files. A key is made when it is asked for and its file is not there yet; from then
on the file is only read. Keys on Edwards curves sign whole messages, and all others
digests. -/

namespace SignerPlugin

/-- What signers with keys in files act on. -/
structure Disk where
  files : FileTree
  entropy : Entropy
  deriving DecidableEq, Repr

/-- How an action with a key in a file fails. -/
inductive LocalKeyFault
  | notALocalKey (resource : String)
  | missing (path : Path)
  | file (fault : FileFault)
  | unreadable (path : Path) (fault : Key.Fault)
  | unsupportedAlgorithm (name : String)
  | misplaced (option : MisplacedOption)
  /-- A digest is given to a key that signs or verifies messages only. -/
  | digestToSign
  | digestToVerify
  | digestLength
  | digestTooLarge
  | unusableKey (path : Path)
  | wrongSignature
  deriving DecidableEq, Repr

namespace LocalKeyFault

def message : LocalKeyFault → String
  | .notALocalKey resource => "Not a localkms key resource ID: " ++ Text.quoted resource
  | .missing path => "Signing key not found: " ++ path.toText
  | .file fault => fault.message
  | .unreadable _ .encrypted => "Password was not given but private key is encrypted"
  | .unreadable path _ => "No private key in " ++ path.toText
  | .unsupportedAlgorithm name => "Unsupported algorithm: " ++ name
  | .misplaced option => option.message
  | .digestToSign => "Ed25519 keys cannot sign a precomputed digest"
  | .digestToVerify => "Ed25519 keys cannot verify a precomputed digest"
  | .digestLength =>
    "The provided data must be the same length as the hash algorithm's digest size."
  | .digestTooLarge =>
    "Digest or salt length too long for key size. Use a larger key or shorter salt length if you are " ++
      "specifying a PSS salt"
  | .unusableKey path => "Unsupported key type in " ++ path.toText
  | .wrongSignature => "Invalid signature"

/-- The word for the kind of failure. -/
def label : LocalKeyFault → String
  | .missing _ => FileCause.notFound.label
  | .file fault => fault.cause.label
  | .unreadable _ fault => fault.label
  | .misplaced _ => "TypeError"
  | _ => "ValueError"

end LocalKeyFault

/-- A key in a file, with the hash function for those who choose none. -/
structure LocalKey where
  path : Path
  hash : HashFunc
  suite : KeySuite

namespace LocalKey

/-- An action with a key in a file. -/
abbrev Run (α : Type) := ExceptT LocalKeyFault (StateM Disk) α

/-- The kind of plugin that serves keys in files. -/
def scheme : String := "localkms"

/-- The key that a resource names. -/
def ofResource (resource : String) (hash : HashFunc) (suite : KeySuite) :
    Except LocalKeyFault LocalKey :=
  match KeyResource.ofText? resource with
  | some ⟨kind, key⟩ =>
    if kind = scheme ∧ key ≠ "" then .ok ⟨.ofText key, hash, suite⟩ else .error
      (.notALocalKey resource)
  | none => .error (.notALocalKey resource)

/-- Reads the key from its file. -/
def load (here : LocalKey) (files : FileTree) : Except LocalKeyFault PrivateKey :=
  match files.exists? here.path with
  | .error fault => .error (.file fault)
  | .ok false => .error (.missing here.path)
  | .ok true => match files.read here.path with
    | .ok content => (here.suite.read content).mapError (.unreadable here.path)
    | .error fault => .error (.file fault)

/-- The key in the file. -/
def privateKey (here : LocalKey) : Run PrivateKey := do
  liftExcept (here.load (← get).files)
where
  liftExcept {α : Type} (result : Except LocalKeyFault α) : Run α := ExceptT.mk (pure result)

/-- Writes the key's file, and makes the directories around it. The file is for its owner only. -/
def store (here : LocalKey) (files : FileTree) (key : PrivateKey) : Option FileFault × FileTree :=
  match files.makeDirectories here.path.parent with
  | (some fault, ready) => (some fault, ready)
  | (none, ready) => match ready.write here.path (here.suite.write key) 0o600 with
    | .error fault => (some fault, ready)
    | .ok written => (none, written)

/-- Makes a key and writes it. -/
def make (here : LocalKey) (algorithm : KeyAlgorithm) : Run PublicKey := do
  let disk ← get
  let (key, entropy) := here.suite.generate algorithm disk.entropy
  let (fault, files) := here.store disk.files key
  set (⟨files, entropy⟩ : Disk)
  match fault with
  | some fault => throw (.file fault)
  | none => return here.suite.publicOf key

/-- The public half of the key, which is made first if there is nothing in its place. -/
def createKey (here : LocalKey) (algorithm : String) : Run PublicKey := do
  match (← get).files.exists? here.path with
  | .error fault => throw (.file fault)
  | .ok true => return here.suite.publicOf (← here.privateKey)
  | .ok false => match KeyAlgorithm.ofName? algorithm with
    | some algorithm => here.make algorithm
    | none => throw (.unsupportedAlgorithm algorithm)

/-- The public half of the key. Local keys have no versions, so none is looked for. -/
def publicKey (here : LocalKey) (options : List SignerOption) : Run PublicKey := do
  match OptionValues.ofCallOptions options with
  | .error option => throw (.misplaced option)
  | .ok _ => return here.suite.publicOf (← here.privateKey)

/-- The hash function and the digest that are signed: the digest given, or else that of the
message. -/
def signingInput (here : LocalKey) (message : Bytes) (values : OptionValues) :
    Except LocalKeyFault (HashFunc × Bytes) :=
  let hash := values.hashFunc.getD here.hash
  match values.digest with
  | some digest =>
    if digest.length = hash.digestSize then .ok (hash, digest) else .error .digestLength
  | none => .ok (hash, hash.digest message)

/-- The signature that a key makes. -/
def signWith (here : LocalKey) (key : PrivateKey) (message : Bytes) (values : OptionValues) :
    Except LocalKeyFault Bytes :=
  match key with
  | .ed25519 _ =>
    if values.digest.isSome then .error .digestToSign else .ok (here.suite.signMessage key message)
  | .x25519 _ => .error (.unusableKey here.path)
  | .ec _ _ | .rsa _ => do
    let (hash, digest) ← here.signingInput message values
    match here.suite.signDigest key hash digest with
    | some signature => return signature
    | none => throw .digestTooLarge

/-- Checks a signature against a key. -/
def verifyWith (here : LocalKey) (key : PrivateKey) (signature message : Bytes)
    (values : OptionValues) :
    Except LocalKeyFault Unit :=
  let known := here.suite.publicOf key
  match key with
  | .ed25519 _ =>
    if values.digest.isSome then .error .digestToVerify
    else if here.suite.verifyMessage known message signature then .ok () else .error .wrongSignature
  | .x25519 _ => .error (.unusableKey here.path)
  | .ec _ _ | .rsa _ => do
    let (hash, digest) ← here.signingInput message values
    if here.suite.verifyDigest known hash digest signature then return () else throw .wrongSignature

/-- Signs a message, or the digest that an option gives instead. -/
def sign (here : LocalKey) (message : Bytes) (options : List SignerOption) : Run Bytes := do
  match here.signWith (← here.privateKey) message (.ofOptions options) with
  | .ok signature => return signature
  | .error fault => throw fault

/-- Checks the signature of a message, or of the digest that an option gives instead. -/
def verify (here : LocalKey) (signature message : Bytes) (options : List SignerOption) :
    Run Unit := do
  match here.verifyWith (← here.privateKey) signature message (.ofOptions options) with
  | .ok () => return ()
  | .error fault => throw fault

/-- The same action, failing as signers do. -/
def asAction {α : Type} (run : Run α) : Action Disk α :=
  ExceptT.mk do
    match ← run.run with
    | .ok a => return .ok a
    | .error fault => return .error ⟨fault.label, fault.message⟩

/-- The key as a signer. Its actions are over before any deadline could matter. -/
def signer (here : LocalKey) : Signer Disk where
  defaultAlgorithm := return KeyAlgorithm.ecdsaP256.name
  supportedAlgorithms := return KeyAlgorithm.all.map fun algorithm => algorithm.name
  createKey _ algorithm := asAction (here.createKey algorithm)
  publicKey options := asAction (here.publicKey options)
  signMessage message options := asAction (here.sign message options)
  verifySignature signature message options := asAction (here.verify signature message options)

/-- The signer that a client's binding asks for. -/
def serving (suite : KeySuite) (init : Message.InitOptions) : Action Disk (Signer Disk) :=
  match ofResource init.keyResourceId init.hashFunc suite with
  | .ok key => return key.signer
  | .error fault => Action.fail ⟨fault.label, fault.message⟩

end LocalKey
end SignerPlugin
