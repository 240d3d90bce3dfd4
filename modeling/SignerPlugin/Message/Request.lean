import SignerPlugin.Message.Options
import SignerPlugin.Text.Writable

/-! Requests: what a plugin is asked to do, and the envelope that carries it together with the
binding of the client. -/

namespace SignerPlugin.Message

open Schema

/-- The version of the protocol. The two sides must agree on it exactly. -/
def protocolVersion : String := "v1"

/-- What a plugin can be asked to do. -/
inductive Method
  | defaultAlgorithm
  | supportedAlgorithms
  | createKey
  | publicKey
  | signMessage
  | verifySignature
  deriving DecidableEq, Repr

namespace Method

def all : List Method :=
  [.defaultAlgorithm, .supportedAlgorithms, .createKey, .publicKey, .signMessage, .verifySignature]

def name : Method → String
  | .defaultAlgorithm => "defaultAlgorithm"
  | .supportedAlgorithms => "supportedAlgorithms"
  | .createKey => "createKey"
  | .publicKey => "publicKey"
  | .signMessage => "signMessage"
  | .verifySignature => "verifySignature"

/-- The member that holds the arguments or the result of a method. -/
def member : Method → MemberName
  | .defaultAlgorithm => ⟨"defaultAlgorithm", "default_algorithm"⟩
  | .supportedAlgorithms => ⟨"supportedAlgorithms", "supported_algorithms"⟩
  | .createKey => ⟨"createKey", "create_key"⟩
  | .publicKey => ⟨"publicKey", "public_key"⟩
  | .signMessage => ⟨"signMessage", "sign_message"⟩
  | .verifySignature => ⟨"verifySignature", "verify_signature"⟩

end Method

/-- What binds a client: it goes unchanged with each of its requests. -/
structure InitOptions (θ : Type := String) where
  protocolVersion : θ := by exact Message.protocolVersion
  keyResourceId : θ := by exact ""
  hashFunc : HashFunc := .sha256
  deriving DecidableEq, BEq, Repr

/-- A record without members. -/
structure Blank where
  deriving DecidableEq, BEq, Repr

structure CreateKeyArgs (θ : Type := String) where
  ctxDeadline : Option Time.Timestamp := none
  algorithm : θ
  deriving DecidableEq, BEq, Repr

structure PublicKeyArgs (θ : Type := String) where
  publicKeyOptions : PublicKeyOptions θ := {}
  deriving DecidableEq, BEq, Repr

structure SignMessageArgs (θ : Type := String) where
  signOptions : SignOptions θ := {}
  deriving DecidableEq, BEq, Repr

structure VerifySignatureArgs (θ : Type := String) where
  signature : Bytes
  verifyOptions : VerifyOptions θ := {}
  deriving DecidableEq, BEq, Repr

/-- A method together with its arguments. -/
inductive MethodArgs (θ : Type := String)
  | defaultAlgorithm (args : Blank)
  | supportedAlgorithms (args : Blank)
  | createKey (args : CreateKeyArgs θ)
  | publicKey (args : PublicKeyArgs θ)
  | signMessage (args : SignMessageArgs θ)
  | verifySignature (args : VerifySignatureArgs θ)
  deriving DecidableEq, BEq, Repr

def MethodArgs.method {θ : Type} : MethodArgs θ → Method
  | .defaultAlgorithm _ => .defaultAlgorithm
  | .supportedAlgorithms _ => .supportedAlgorithms
  | .createKey _ => .createKey
  | .publicKey _ => .publicKey
  | .signMessage _ => .signMessage
  | .verifySignature _ => .verifySignature

/-- The kind of a method's arguments. -/
def Method.Args (method : Method) (θ : Type := String) : Type :=
  match method with
  | .defaultAlgorithm => Blank
  | .supportedAlgorithms => Blank
  | .createKey => CreateKeyArgs θ
  | .publicKey => PublicKeyArgs θ
  | .signMessage => SignMessageArgs θ
  | .verifySignature => VerifySignatureArgs θ

/-- Arguments alone: their kind tells which method they are for. -/
structure Payload (θ : Type := String) where
  method : Method
  args : method.Args θ

/-- A request: the client's binding and what is asked. -/
structure PluginArgs (θ : Type := String) where
  initOptions : InitOptions θ
  methodArgs : MethodArgs θ
  deriving DecidableEq, BEq, Repr

namespace Method

def codec : Codec Method := .named all name

end Method

namespace InitOptions

def codec : Codec InitOptions :=
  .record (.and (.and (.and (.none (@InitOptions.mk String))
    (.defaulted ⟨"protocolVersion", "protocol_version"⟩ Message.protocolVersion
      InitOptions.protocolVersion .text))
    (.defaulted ⟨"keyResourceID", "key_resource_id"⟩ "" keyResourceId .text))
    (.defaulted ⟨"hashFunc", "hash_func"⟩ .sha256 InitOptions.hashFunc .hash))

end InitOptions

namespace Blank

def codec : Codec Blank := .record (.none ⟨⟩)

end Blank

namespace CreateKeyArgs

def codec : Codec CreateKeyArgs :=
  .record (.and (.and (.none CreateKeyArgs.mk)
    (.optional ⟨"ctxDeadline", "ctx_deadline"⟩ ctxDeadline .time))
    (.required (.same "algorithm") algorithm .text))

end CreateKeyArgs

namespace PublicKeyArgs

def codec : Codec PublicKeyArgs :=
  .record (.and (.none PublicKeyArgs.mk)
    (.defaulted ⟨"publicKeyOptions", "public_key_options"⟩ {} publicKeyOptions RpcOptions.codec))

end PublicKeyArgs

namespace SignMessageArgs

def codec : Codec SignMessageArgs :=
  .record (.and (.none SignMessageArgs.mk)
    (.defaulted ⟨"signOptions", "sign_options"⟩ {} signOptions SignOptions.codec))

end SignMessageArgs

namespace VerifySignatureArgs

def codec : Codec VerifySignatureArgs :=
  .record (.and (.and (.none VerifySignatureArgs.mk)
    (.required (.same "signature") signature .bytes))
    (.defaulted ⟨"verifyOptions", "verify_options"⟩ {} verifyOptions SignOptions.codec))

end VerifySignatureArgs

/-- The method and the arguments that a text names, before it is known that they belong together. -/
structure MethodDraft (θ : Type := String) where
  method : Method
  defaultAlgorithm : Option Blank := none
  supportedAlgorithms : Option Blank := none
  createKey : Option (CreateKeyArgs θ) := none
  publicKey : Option (PublicKeyArgs θ) := none
  signMessage : Option (SignMessageArgs θ) := none
  verifySignature : Option (VerifySignatureArgs θ) := none
  deriving DecidableEq, BEq, Repr

namespace MethodDraft

def members : Members MethodDraft MethodDraft :=
  .and (.and (.and (.and (.and (.and (.and (.none MethodDraft.mk)
    (.required ⟨"methodName", "method_name"⟩ method Method.codec))
    (.optional Method.defaultAlgorithm.member defaultAlgorithm Blank.codec))
    (.optional Method.supportedAlgorithms.member supportedAlgorithms Blank.codec))
    (.optional Method.createKey.member createKey CreateKeyArgs.codec))
    (.optional Method.publicKey.member publicKey PublicKeyArgs.codec))
    (.optional Method.signMessage.member signMessage SignMessageArgs.codec))
    (.optional Method.verifySignature.member verifySignature VerifySignatureArgs.codec)

def codec : Codec MethodDraft := .record members

variable {θ : Type}

/-- Whether arguments for a method are given. -/
def has (draft : MethodDraft θ) : Method → Bool
  | .defaultAlgorithm => draft.defaultAlgorithm.isSome
  | .supportedAlgorithms => draft.supportedAlgorithms.isSome
  | .createKey => draft.createKey.isSome
  | .publicKey => draft.publicKey.isSome
  | .signMessage => draft.signMessage.isSome
  | .verifySignature => draft.verifySignature.isSome

/-- The arguments given for a method. -/
def given (draft : MethodDraft θ) : (method : Method) → Option (method.Args θ)
  | .defaultAlgorithm => draft.defaultAlgorithm
  | .supportedAlgorithms => draft.supportedAlgorithms
  | .createKey => draft.createKey
  | .publicKey => draft.publicKey
  | .signMessage => draft.signMessage
  | .verifySignature => draft.verifySignature

/-- The draft with arguments for the method of their kind and no others. -/
def ofPayload : Payload θ → MethodDraft θ
  | ⟨.defaultAlgorithm, args⟩ => { method := .defaultAlgorithm, defaultAlgorithm := some args }
  | ⟨.supportedAlgorithms, args⟩ =>
    { method := .supportedAlgorithms, supportedAlgorithms := some args }
  | ⟨.createKey, args⟩ => { method := .createKey, createKey := some args }
  | ⟨.publicKey, args⟩ => { method := .publicKey, publicKey := some args }
  | ⟨.signMessage, args⟩ => { method := .signMessage, signMessage := some args }
  | ⟨.verifySignature, args⟩ => { method := .verifySignature, verifySignature := some args }

/-- The methods that arguments are given for. -/
def populated (draft : MethodDraft θ) : List Method := Method.all.filter draft.has

/-- Why a draft is no request. -/
def mismatch (draft : MethodDraft θ) : String :=
  "method " ++ draft.method.name ++ " requires exactly the " ++ draft.method.member.camel ++
    " payload, got [" ++
    ", ".intercalate (draft.populated.map fun method => "'" ++ method.member.camel ++ "'") ++ "]"

/-- The request that a draft makes: its arguments must be those of its method and no others. -/
def accept (draft : MethodDraft θ) : Except String (MethodArgs θ) :=
  match draft with
  | ⟨.defaultAlgorithm, some args, none, none, none, none, none⟩ => .ok (.defaultAlgorithm args)
  | ⟨.supportedAlgorithms, none, some args, none, none, none, none⟩ =>
    .ok (.supportedAlgorithms args)
  | ⟨.createKey, none, none, some args, none, none, none⟩ => .ok (.createKey args)
  | ⟨.publicKey, none, none, none, some args, none, none⟩ => .ok (.publicKey args)
  | ⟨.signMessage, none, none, none, none, some args, none⟩ => .ok (.signMessage args)
  | ⟨.verifySignature, none, none, none, none, none, some args⟩ => .ok (.verifySignature args)
  | draft => .error draft.mismatch

end MethodDraft

namespace MethodArgs

variable {θ : Type}

/-- The members that a request is written as. -/
def draft : MethodArgs θ → MethodDraft θ
  | .defaultAlgorithm args => { method := .defaultAlgorithm, defaultAlgorithm := some args }
  | .supportedAlgorithms args =>
    { method := .supportedAlgorithms, supportedAlgorithms := some args }
  | .createKey args => { method := .createKey, createKey := some args }
  | .publicKey args => { method := .publicKey, publicKey := some args }
  | .signMessage args => { method := .signMessage, signMessage := some args }
  | .verifySignature args => { method := .verifySignature, verifySignature := some args }

@[simp]
theorem accept_draft (args : MethodArgs θ) : args.draft.accept = .ok args := by
  cases args <;> rfl

def codec : Codec MethodArgs := MethodDraft.codec.refine MethodDraft.accept draft

/-- The request that arguments alone make. -/
def of (payload : Payload θ) : Except String (MethodArgs θ) :=
  (MethodDraft.ofPayload payload).accept

/-- The arguments of a request alone: those that are given for its method. -/
def payload? (args : MethodArgs θ) : Option (Payload θ) :=
  (args.draft.given args.method).map fun given => ⟨args.method, given⟩

/-- The arguments alone, as a tree. -/
def writePayload (style : Style) : MethodArgs → Json
  | .defaultAlgorithm args => Blank.codec.write style args
  | .supportedAlgorithms args => Blank.codec.write style args
  | .createKey args => CreateKeyArgs.codec.write style args
  | .publicKey args => PublicKeyArgs.codec.write style args
  | .signMessage args => SignMessageArgs.codec.write style args
  | .verifySignature args => VerifySignatureArgs.codec.write style args

end MethodArgs

namespace PluginArgs

/-- The member that holds the binding of the client. -/
def bindingMember : MemberName := ⟨"initOptions", "init_options"⟩

/-- The member that holds the method's members, where they have one of their own. -/
def argsMember : MemberName := ⟨"methodArgs", "method_args"⟩

/-- The envelope with its two parts as members of their own. -/
def nested : Codec PluginArgs :=
  .record (.and (.and (.none PluginArgs.mk)
    (.required bindingMember initOptions InitOptions.codec))
    (.required argsMember methodArgs MethodArgs.codec))

/-- The members of an envelope, parted: the method's members stand beside the binding unless they
are already a member of their own. -/
def part (members : Json.Members) : Json.Members :=
  if (members.find? "method_args").isSome || (members.find? "methodArgs").isSome then members
  else
    let rest := members.without "initOptions"
    match (members.find? "initOptions").getD .null with
    | .null => [("init_options", (rest.find? "init_options").getD .null),
        ("method_args", .obj (rest.without "init_options"))]
    | binding => [("init_options", binding), ("method_args", .obj rest)]

/-- The envelope with the method's members before the binding. -/
def join (members : Json.Members) (methodArgs : Json) : Json :=
  match methodArgs with
  | .obj front => .obj (front ++ members)
  | _ => .obj members

def codec : Codec PluginArgs :=
  ⟨fun tree =>
    let parted := match tree with
      | .obj members => .obj (part members)
      | tree => tree
    (nested.read parted).mapCause Cause.ofValue,
    fun style args =>
      join [(bindingMember.spelled style, InitOptions.codec.write style args.initOptions)]
        (MethodArgs.codec.write style args.methodArgs)⟩

end PluginArgs

section Texts

variable {θ θ' : Type} {m : Type → Type} [Monad m]

/-- The same binding in texts of another kind. -/
def InitOptions.mapTexts (f : θ → m θ') (init : InitOptions θ) : m (InitOptions θ') := do
  return { protocolVersion := ← f init.protocolVersion, keyResourceId := ← f init.keyResourceId,
           hashFunc := init.hashFunc }

/-- The same method with arguments in texts of another kind. -/
def MethodArgs.mapTexts (f : θ → m θ') : MethodArgs θ → m (MethodArgs θ')
  | .defaultAlgorithm args => return .defaultAlgorithm args
  | .supportedAlgorithms args => return .supportedAlgorithms args
  | .createKey args =>
    return .createKey { ctxDeadline := args.ctxDeadline, algorithm := ← f args.algorithm }
  | .publicKey args => return .publicKey ⟨← args.publicKeyOptions.mapTexts f⟩
  | .signMessage args => return .signMessage ⟨← args.signOptions.mapTexts f⟩
  | .verifySignature args =>
    return .verifySignature ⟨args.signature, ← args.verifyOptions.mapTexts f⟩

/-- The same request in texts of another kind. They are taken in the order in which they are
written. -/
def PluginArgs.mapTexts (f : θ → m θ') (args : PluginArgs θ) : m (PluginArgs θ') := do
  let methodArgs ← args.methodArgs.mapTexts f
  return ⟨← args.initOptions.mapTexts f, methodArgs⟩

/-- The request that is written. -/
def PluginArgs.written [Text.Writable θ] (args : PluginArgs θ) :
    Except Text.Unwritable PluginArgs :=
  args.mapTexts Text.Writable.written

/-- The request of which another one is written. -/
def PluginArgs.ofWritten [Text.Writable θ] (args : PluginArgs) : PluginArgs θ :=
  args.mapTexts (m := Id) fun text => (Text.Writable.ofString text : θ)

end Texts
end SignerPlugin.Message
