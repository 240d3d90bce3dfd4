import SignerPlugin.Base64
import SignerPlugin.Yaml.Document
import SignerPlugin.Yaml.Lexer
import SignerPlugin.Yaml.Merge

/-! The values of documents. Scalars become what their tags say where they are first
mentioned; collections are filled afterwards, in the order in which they were mentioned, so
that of two faults the one further out counts. -/

namespace SignerPlugin.Yaml

open Config (Tree)
open Text (CodeText)

/-- The value of a scalar. -/
def scalarValue (tag : Tag) (text : CodeText) : Except Fault Tree :=
  match tag with
  | .null => .ok .null
  | .bool =>
    let word := Text.smallLetters text
    match word.string?.bind Tag.truth? with
    | some value => .ok (.bool value)
    | none => .error (.notATruthValue word)
  | .int => (readInteger text).map .int
  | .float => (readFloat text).map .ofBinary
  | .binary => match text.chars?.bind Base64.decodeLoosely? with
    | some bytes => .ok (.bytes bytes)
    | none => .error .malformed
  | .timestamp => (Moment.readLabel text).map .other
  | .str => .ok (.text text)
  | _ => .error .malformed

namespace Nodes

/-- The text that a node gives where a scalar is wanted: a mapping gives that of its value
key. The fuel bounds the number of mappings inside one another. -/
def text (nodes : Nodes) : (fuel : Nat) → Place → Except Fault CodeText
  | 0, _ => .error .tooDeep
  | fuel + 1, place => match nodes.content place with
    | .scalar text => .ok text
    | .sequence _ => .error .malformed
    | .mapping entries => match entries.find? fun entry => nodes.tag entry.1 = .value with
      | some entry => nodes.text fuel entry.2
      | none => .error .malformed

/-- The value of a node whose tag is that of a scalar. -/
def scalarAt (nodes : Nodes) (place : Place) : Except Fault Tree := do
  let text ← nodes.text (nodes.size + 1) place
  let node := nodes.node place
  if node.tag = .timestamp && node.entries?.isSome then throw .timeOfMapping
  scalarValue node.tag text

end Nodes

/-- What a node is where it is mentioned: a value, or a collection, named by the order of
their mention. -/
inductive Part
  | value (tree : Tree)
  | collection (index : Nat)
  deriving Repr, Inhabited

inductive Collection
  | list (items : List Part)
  | map (entries : List (Tree × Part))
  /-- A collection whose members no setting reaches. -/
  | closed
  deriving Repr

/-- What is known while values are made. -/
structure Making where
  nodes : Nodes
  /-- The number of merge keys in the document. -/
  mergeCount : Nat
  /-- The parts that nodes have become so far. -/
  parts : Array (Option Part)
  /-- The places of the collections, in the order of their mention. -/
  mentioned : Array Place := #[]

abbrev Maker := StateT Making (Except Fault)

/-- What a node is; it stays the same wherever it is mentioned. -/
def mention (place : Place) : Maker Part := do
  let s ← get
  match s.parts[place]?.join with
  | some part => return part
  | none =>
    if (s.nodes.tag place).isCollection then
      let part := .collection s.mentioned.size
      set { s with
        mentioned := s.mentioned.push place
        parts := s.parts.modify place fun _ => some part }
      return part
    else
      let part := .value (← s.nodes.scalarAt place)
      set { s with parts := s.parts.modify place fun _ => some part }
      return part

/-- The entries of a mapping, with what its merge keys name. A collection cannot be a key. -/
def makeEntries (place : Place) : Maker (List (Tree × Part)) := do
  let s ← get
  let nodes ← s.nodes.merge s.mergeCount place
  set { s with nodes }
  ((nodes.entries? place).getD []).foldlM (fun entries (key, value) => do
    match ← mention key with
    | .value key => return Tree.put entries key (← mention value)
    | .collection _ => throw .malformed) []

/-- Makes the entry of a mapping that has no other. -/
def makePair (place : Place) : Maker Unit := do
  match (← get).nodes.entries? place with
  | some [(key, value)] => do
    let _ ← mention key
    let _ ← mention value
  | _ => throw .malformed

/-- Fills the collection at a place. -/
def makeCollection (place : Place) : Maker Collection := do
  let node := (← get).nodes.node place
  match node.tag, node.content with
  | .seq, .sequence items => return .list (← items.mapM mention)
  | .map, .mapping _ => return .map (← makeEntries place)
  | .set, .mapping _ => do
    let _ ← makeEntries place
    return .closed
  | .omap, .sequence items | .pairs, .sequence items => do
    items.forM makePair
    return .closed
  | _, _ => throw .malformed

/-- Fills the collections that have been mentioned, and those that are mentioned in them. The
fuel bounds their number. -/
def makeCollections : (fuel : Nat) → Array Collection → Maker (Array Collection)
  | 0, made => return made
  | fuel + 1, made => do
    match (← get).mentioned[made.size]? with
    | some place => makeCollections fuel (made.push (← makeCollection place))
    | none => return made

/-- The tree that a part is, inside the collections `around` it. A collection that is one of
those has no end. The fuel bounds the number of collections inside one another. -/
def Part.unfold (collections : Array Collection) : (fuel : Nat) → (around : List Nat) → Part → Tree
  | _, _, .value tree => tree
  | 0, _, .collection _ => .endless
  | fuel + 1, around, .collection index =>
    if around.contains index then .endless
    else match collections[index]? with
      | some (.list items) => .list (items.map (unfold collections fuel (index :: around)))
      | some (.map entries) =>
        .map (entries.map fun entry => (entry.1, unfold collections fuel (index :: around) entry.2))
      | some .closed | none => .other "collection"

/-- The value of a document. -/
def Document.value (document : Document) : Except Fault Tree := do
  let nodes := document.nodes
  let make : Maker (Part × Array Collection) := do
    let root ← mention document.root
    return (root, ← makeCollections (nodes.size + 1) #[])
  let ((root, collections), _) ← make.run
    { nodes, mergeCount := nodes.mergeCount, parts := Array.replicate nodes.size none }
  return root.unfold collections (collections.size + 1) []

/-- The value of a text's only document; null when there is none. Collections may stand
`depth` deep inside one another. -/
def parse (depth : Nat) (text : List Char) : Except Fault Tree := do
  match ← Document.ofTokens depth (Token.ofText text) with
  | some document => document.value
  | none => return .null

end SignerPlugin.Yaml
