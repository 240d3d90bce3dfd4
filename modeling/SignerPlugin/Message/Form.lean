import SignerPlugin.Message.Reply
import SignerPlugin.Schema.Form

/-! The forms of all messages and of their parts. -/

namespace SignerPlugin.Message

open Schema

def InitOptions.form : Form InitOptions := ⟨"InitOptions", InitOptions.codec⟩

def RpcOptions.form : Form RpcOptions := ⟨"RPCOptions", RpcOptions.codec⟩

def MessageOptions.form : Form MessageOptions := ⟨"MessageOptions", MessageOptions.codec⟩

def PublicKeyOptions.form : Form PublicKeyOptions := ⟨"PublicKeyOptions", RpcOptions.codec⟩

def SignOptions.form : Form SignOptions := ⟨"SignOptions", SignOptions.codec⟩

def VerifyOptions.form : Form VerifyOptions := ⟨"VerifyOptions", SignOptions.codec⟩

def DefaultAlgorithmArgs.form : Form Blank := ⟨"DefaultAlgorithmArgs", Blank.codec⟩

def SupportedAlgorithmsArgs.form : Form Blank := ⟨"SupportedAlgorithmsArgs", Blank.codec⟩

def CreateKeyArgs.form : Form CreateKeyArgs := ⟨"CreateKeyArgs", CreateKeyArgs.codec⟩

def PublicKeyArgs.form : Form PublicKeyArgs := ⟨"PublicKeyArgs", PublicKeyArgs.codec⟩

def SignMessageArgs.form : Form SignMessageArgs := ⟨"SignMessageArgs", SignMessageArgs.codec⟩

def VerifySignatureArgs.form : Form VerifySignatureArgs :=
  ⟨"VerifySignatureArgs", VerifySignatureArgs.codec⟩

def MethodArgs.form : Form MethodArgs := ⟨"MethodArgs", MethodArgs.codec⟩

def PluginArgs.form : Form PluginArgs := ⟨"PluginArgs", PluginArgs.codec⟩

def DefaultAlgorithmResp.form : Form DefaultAlgorithmResp :=
  ⟨"DefaultAlgorithmResp", DefaultAlgorithmResp.codec⟩

def SupportedAlgorithmsResp.form : Form SupportedAlgorithmsResp :=
  ⟨"SupportedAlgorithmsResp", SupportedAlgorithmsResp.codec⟩

def CreateKeyResp.form : Form KeyResp := ⟨"CreateKeyResp", KeyResp.codec⟩

def PublicKeyResp.form : Form KeyResp := ⟨"PublicKeyResp", KeyResp.codec⟩

def SignMessageResp.form : Form SignMessageResp := ⟨"SignMessageResp", SignMessageResp.codec⟩

def VerifySignatureResp.form : Form Blank := ⟨"VerifySignatureResp", Blank.codec⟩

def PluginResp.form : Form PluginResp := ⟨"PluginResp", PluginResp.codec⟩

def ErrorReply.form : Form ErrorReply := ⟨"_ErrorReply", ErrorReply.codec⟩

end SignerPlugin.Message
