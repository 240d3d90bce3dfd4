import SignerPlugin.Base64
import SignerPlugin.Bytes
import SignerPlugin.CallContext
import SignerPlugin.CallContext.Scope
import SignerPlugin.Client
import SignerPlugin.ClientConfig
import SignerPlugin.Command
import SignerPlugin.CommandLine
import SignerPlugin.Config.Expansion
import SignerPlugin.Config.Reference
import SignerPlugin.Config.Tree
import SignerPlugin.ConfigFile
import SignerPlugin.Crypto.Curve
import SignerPlugin.Crypto.Ecdsa
import SignerPlugin.Crypto.Edwards
import SignerPlugin.Crypto.Modular
import SignerPlugin.Crypto.Rsa
import SignerPlugin.CryptoSigner
import SignerPlugin.CryptoSigner.Session
import SignerPlugin.Digest
import SignerPlugin.Digest.Blocks
import SignerPlugin.Digest.Md5
import SignerPlugin.Digest.Sha1
import SignerPlugin.Digest.Sha2
import SignerPlugin.Digest.Sha3
import SignerPlugin.Entropy
import SignerPlugin.Failure
import SignerPlugin.FileTree
import SignerPlugin.HashFunc
import SignerPlugin.Invocation
import SignerPlugin.Json
import SignerPlugin.Json.Fault
import SignerPlugin.Json.Reader
import SignerPlugin.Json.Writer
import SignerPlugin.Key.Algorithm
import SignerPlugin.Key.CurveDomain
import SignerPlugin.Key.Der
import SignerPlugin.Key.Fault
import SignerPlugin.Key.Kind
import SignerPlugin.Key.Method
import SignerPlugin.Key.Pem
import SignerPlugin.Key.PrivateKey
import SignerPlugin.Key.PublicKey
import SignerPlugin.Key.Suite
import SignerPlugin.KeyResource
import SignerPlugin.LocalKey
import SignerPlugin.LocalKey.Creation
import SignerPlugin.LocalKey.Source
import SignerPlugin.LogLevel
import SignerPlugin.Main
import SignerPlugin.Message.Form
import SignerPlugin.Message.Options
import SignerPlugin.Message.Reply
import SignerPlugin.Message.Request
import SignerPlugin.MessageSource
import SignerPlugin.Numeric.Binary64
import SignerPlugin.Numeric.IntegerText
import SignerPlugin.Numeric.Shortest
import SignerPlugin.Numeric.Word
import SignerPlugin.Options
import SignerPlugin.Options.Packing
import SignerPlugin.Path
import SignerPlugin.Plugin.Arguments
import SignerPlugin.Plugin.Dispatch
import SignerPlugin.Plugin.Serve
import SignerPlugin.Proofs.BagRoundTrip
import SignerPlugin.Proofs.Base64Acceptance
import SignerPlugin.Proofs.Base64Text
import SignerPlugin.Proofs.ByteFields
import SignerPlugin.Proofs.ByteNumbers
import SignerPlugin.Proofs.CallSessions
import SignerPlugin.Proofs.ClientFailures
import SignerPlugin.Proofs.CodecLaws
import SignerPlugin.Proofs.ConcurrentCreation
import SignerPlugin.Proofs.ConcurrentRuns
import SignerPlugin.Proofs.ConfigLoading
import SignerPlugin.Proofs.DeadlineCarriage
import SignerPlugin.Proofs.DigestLengths
import SignerPlugin.Proofs.DispatchEffects
import SignerPlugin.Proofs.DispatchReply
import SignerPlugin.Proofs.EnvelopeShape
import SignerPlugin.Proofs.FailureVisibility
import SignerPlugin.Proofs.FilePlaces
import SignerPlugin.Proofs.InvocationVerdict
import SignerPlugin.Proofs.JsonText
import SignerPlugin.Proofs.KeyData
import SignerPlugin.Proofs.KeyStore
import SignerPlugin.Proofs.KeyText
import SignerPlugin.Proofs.LastOption
import SignerPlugin.Proofs.MessageCodecs
import SignerPlugin.Proofs.MessageShapes
import SignerPlugin.Proofs.NamedMembers
import SignerPlugin.Proofs.OptionBags
import SignerPlugin.Proofs.PathText
import SignerPlugin.Proofs.PluginProgram
import SignerPlugin.Proofs.RawArguments
import SignerPlugin.Proofs.References
import SignerPlugin.Proofs.ReplyParsing
import SignerPlugin.Proofs.RequestShape
import SignerPlugin.Proofs.RequestedCall
import SignerPlugin.Proofs.RsaSignatures
import SignerPlugin.Proofs.SentOptions
import SignerPlugin.Proofs.ServedRequest
import SignerPlugin.Proofs.SignerSessions
import SignerPlugin.Proofs.SigningInput
import SignerPlugin.Proofs.TimeText
import SignerPlugin.Proofs.Transparency
import SignerPlugin.Proofs.TreeExpansion
import SignerPlugin.Proofs.TreeText
import SignerPlugin.Proofs.WireRoundTrip
import SignerPlugin.Proofs.WorkUnderContext
import SignerPlugin.Proofs.WrittenTexts
import SignerPlugin.Schema.Checked
import SignerPlugin.Schema.Codec
import SignerPlugin.Schema.Form
import SignerPlugin.Schema.Scalar
import SignerPlugin.Script.Arguments
import SignerPlugin.Script.Builtin
import SignerPlugin.Script.Condition
import SignerPlugin.Script.Field
import SignerPlugin.Script.Filter
import SignerPlugin.Script.Filter.Basic
import SignerPlugin.Script.Filter.Calculation
import SignerPlugin.Script.Filter.Count
import SignerPlugin.Script.Filter.Dump
import SignerPlugin.Script.Filter.Edit
import SignerPlugin.Script.Filter.Lines
import SignerPlugin.Script.Filter.Name
import SignerPlugin.Script.Filter.Order
import SignerPlugin.Script.Filter.Search
import SignerPlugin.Script.Filter.Selection
import SignerPlugin.Script.Format
import SignerPlugin.Script.Launch
import SignerPlugin.Script.Letters
import SignerPlugin.Script.Pattern
import SignerPlugin.Script.Reader
import SignerPlugin.Script.Regular
import SignerPlugin.Script.Run
import SignerPlugin.Script.Shell
import SignerPlugin.Script.Statement
import SignerPlugin.Script.Sum
import SignerPlugin.Script.Utility
import SignerPlugin.Signer
import SignerPlugin.Text.Blank
import SignerPlugin.Text.Capital
import SignerPlugin.Text.CodePoint
import SignerPlugin.Text.Digit
import SignerPlugin.Text.Line
import SignerPlugin.Text.Printable
import SignerPlugin.Text.Quoted
import SignerPlugin.Text.SmallLetters
import SignerPlugin.Text.Utf8
import SignerPlugin.Text.Writable
import SignerPlugin.Time.Calendar
import SignerPlugin.Time.IsoText
import SignerPlugin.Time.MessageTime
import SignerPlugin.Time.OutOfRange
import SignerPlugin.Time.Timestamp
import SignerPlugin.Yaml.BlockScalar
import SignerPlugin.Yaml.Character
import SignerPlugin.Yaml.Document
import SignerPlugin.Yaml.Fault
import SignerPlugin.Yaml.Lexer
import SignerPlugin.Yaml.Merge
import SignerPlugin.Yaml.Moment
import SignerPlugin.Yaml.Node
import SignerPlugin.Yaml.Number
import SignerPlugin.Yaml.Plain
import SignerPlugin.Yaml.Property
import SignerPlugin.Yaml.QuotedScalar
import SignerPlugin.Yaml.Tag
import SignerPlugin.Yaml.Token
import SignerPlugin.Yaml.Value
