import SignerPlugin.Yaml.Tag

/-! Nodes: what a document consists of. Each has a place of its own in the document, and
collections name their parts by places, so that a node can stand in several collections and a
collection inside of itself. -/

namespace SignerPlugin.Yaml

open Text (CodeText)

/-- The place of a node in its document. -/
abbrev Place := Nat

/-- A key with its value. -/
abbrev Entry := Place × Place

inductive Content
  | scalar (text : CodeText)
  | sequence (items : List Place)
  | mapping (entries : List Entry)
  deriving DecidableEq, Repr

structure Node where
  tag : Tag
  content : Content
  deriving DecidableEq, Repr

/-- The nodes that have been read, each at its place. -/
abbrev Nodes := Array Node

namespace Node

/-- What stands where nothing is written. -/
def absent : Node := ⟨.null, .scalar []⟩

/-- The entries of a mapping; nothing else has any. -/
def entries? (node : Node) : Option (List Entry) :=
  match node.content with
  | .mapping entries => some entries
  | _ => none

end Node

namespace Nodes

def node (nodes : Nodes) (place : Place) : Node := nodes[place]?.getD .absent

def tag (nodes : Nodes) (place : Place) : Tag := (nodes.node place).tag

def content (nodes : Nodes) (place : Place) : Content := (nodes.node place).content

/-- The entries of a mapping; nothing else has any. -/
def entries? (nodes : Nodes) (place : Place) : Option (List Entry) := (nodes.node place).entries?

def setContent (nodes : Nodes) (place : Place) (content : Content) : Nodes :=
  nodes.modify place fun node => { node with content }

def setTag (nodes : Nodes) (place : Place) (tag : Tag) : Nodes :=
  nodes.modify place fun node => { node with tag }

/-- Whether a key is written as the merge key. -/
def isMerge (nodes : Nodes) (entry : Entry) : Bool := nodes.tag entry.1 = .merge

/-- The number of merge keys in all mappings. -/
def mergeCount (nodes : Nodes) : Nat :=
  nodes.foldl (fun count node => count + ((node.entries?.getD []).countP nodes.isMerge)) 0

end Nodes

/-- A document: its nodes, and the place of the one that holds all others. -/
structure Document where
  nodes : Nodes
  root : Place
  deriving Repr

end SignerPlugin.Yaml
