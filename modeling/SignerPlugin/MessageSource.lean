import SignerPlugin.Bytes

/-! Where messages come from: bytes at hand, or a stream that is read to its end and has
nothing more to give after that. -/

namespace SignerPlugin

/-- What the open streams still have to give, each at its place. -/
abbrev Streams := List Bytes

inductive MessageSource
  | bytes (content : Bytes)
  | stream (place : Nat)
  deriving DecidableEq, Repr

namespace MessageSource

/-- Reads a source to its end. -/
def read : MessageSource → StateM Streams Bytes
  | .bytes content => return content
  | .stream place => fun streams => ((streams[place]?).getD [], streams.set place [])

end MessageSource
end SignerPlugin
