import SignerPlugin.Yaml.Fault

/-! The tokens of YAML texts. Indentation has become tokens too: a block collection has a
start and an end like one between brackets. -/

namespace SignerPlugin.Yaml

open Text (CodeText)

/-- What a directive before a document says. -/
inductive Directive
  | version (major : Nat)
  /-- Tags that begin with the handle stand for those that begin with the text. -/
  | handle (handle lead : String)
  /-- A directive that says nothing. -/
  | reserved
  deriving DecidableEq, Repr

inductive Token
  | directive (content : Directive)
  | documentStart
  | documentEnd
  | blockSequence
  | blockMapping
  | blockEnd
  | flowSequence
  | flowSequenceEnd
  | flowMapping
  | flowMappingEnd
  /-- The hyphen before an item of a block sequence. -/
  | dash
  /-- The comma between items of a flow collection. -/
  | comma
  | key
  | value
  | alias (name : String)
  | anchor (name : String)
  | tag (handle : Option String) (rest : String)
  | scalar (text : CodeText) (plain : Bool)
  | finish
  /-- Here the text breaks off: what follows cannot be read. -/
  | broken (fault : Fault)
  deriving DecidableEq, Repr

end SignerPlugin.Yaml
