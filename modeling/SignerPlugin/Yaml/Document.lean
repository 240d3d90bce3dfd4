import SignerPlugin.Yaml.Node
import SignerPlugin.Yaml.Token

/-! The document that tokens make up. An alias is the node that its anchor names, which may
still be unfinished there: it contains itself then. -/

namespace SignerPlugin.Yaml

open Text (CodeText)

namespace Document

/-- What is known while a document is read. -/
structure Reading where
  tokens : List Token
  nodes : Nodes := #[]
  /-- The places that have names. -/
  anchors : List (String × Place) := []
  /-- What handles stand for in the document. -/
  handles : List (String × String) := []

abbrev Reader := StateT Reading (Except Fault)

/-- What stands for itself unless a directive says otherwise. -/
def standardHandles : List (String × String) := [("!", "!"), ("!!", Tag.lead)]

/-- The next token. The text must not break off here. -/
def peek : Reader Token := do
  match (← get).tokens with
  | [] => throw .malformed
  | .broken fault :: _ => throw fault
  | token :: _ => return token

def advance : Reader Unit := modify fun s => { s with tokens := s.tokens.drop 1 }

/-- Passes a token that must come here. -/
def expect (token : Token) : Reader Unit := do
  if (← peek) = token then advance else throw .malformed

/-- Adds a node, under the name of its anchor. -/
def addNode (anchor : Option String) (node : Node) : Reader Place := do
  let place := (← get).nodes.size
  modify fun s => { s with
    nodes := s.nodes.push node
    anchors := (anchor.map fun name => (name, place)).toList ++ s.anchors }
  return place

/-- Adds what stands where nothing is written. -/
def addAbsent : Reader Place := addNode none .absent

/-- Fills a collection that has been added. -/
def fill (place : Place) (content : Content) : Reader Unit :=
  modify fun s => { s with nodes := s.nodes.setContent place content }

/-- What is written before a node. -/
structure Properties where
  anchor : Option String := none
  tag : Option String := none

/-- The tag in full: its handle is replaced by what it stands for. -/
def fullTag (handle : Option String) (rest : String) : Reader String := do
  match handle with
  | none => return rest
  | some handle => match (← get).handles.lookup handle with
    | some lead => return lead ++ rest
    | none => throw .malformed

/-- Refuses an anchor that another node has. -/
def checkAnchor (properties : Properties) : Reader Unit := do
  let anchors := (← get).anchors
  if properties.anchor.any fun name => (anchors.lookup name).isSome then throw .malformed

/-- Reads an anchor and a tag, in either order. -/
def readProperties : Reader Properties := do
  match ← peek with
  | .anchor name =>
    advance
    match ← peek with
    | .tag handle rest =>
      advance
      return { anchor := some name, tag := some (← fullTag handle rest) }
    | _ => return { anchor := some name }
  | .tag handle rest =>
    advance
    match ← peek with
    | .anchor name =>
      advance
      return { anchor := some name, tag := some (← fullTag handle rest) }
    | _ => return { tag := some (← fullTag handle rest) }
  | _ => return {}

/-- The tag of a collection. -/
def Properties.collectionTag (properties : Properties) (shape : Tag) : Tag :=
  match properties.tag with
  | none | some "!" => shape
  | some tag => .ofText tag

/-- The scalar that a text is. Without a tag it depends on how it was written what it may be. -/
def Properties.scalar (properties : Properties) (text : CodeText) (plain : Bool) : Node :=
  let tag := match properties.tag with
    | none => if plain then .ofPlain text else .str
    | some "!" => .ofPlain text
    | some tag => .ofText tag
  ⟨tag, .scalar text⟩

/-- What is around a node. -/
inductive Surroundings
  | flow
  | block
  /-- Behind a key or its colon, where a sequence need not be indented. -/
  | entry
  deriving DecidableEq

mutual

/-- Reads a node. The fuel bounds the number of steps, `depth` that of the collections inside. -/
def readNode : (fuel depth : Nat) → Surroundings → Reader Place
  | 0, _, _ => throw .malformed
  | fuel + 1, depth, around => do
    match ← peek with
    | .alias name =>
      advance
      match (← get).anchors.lookup name with
      | some place => return place
      | none => throw .malformed
    | _ =>
      let properties ← readProperties
      let token ← peek
      checkAnchor properties
      match token, around with
      | .scalar text plain, _ =>
        advance
        addNode properties.anchor (properties.scalar text plain)
      | .dash, .entry => readSequence fuel depth properties token
      | .flowSequence, _ => readSequence fuel depth properties token
      | .flowMapping, _ => readMapping fuel depth properties token
      | .blockSequence, .block | .blockSequence, .entry => readSequence fuel depth properties token
      | .blockMapping, .block | .blockMapping, .entry => readMapping fuel depth properties token
      | _, _ =>
        if properties.anchor.isNone && properties.tag.isNone then throw .malformed
        addNode properties.anchor (properties.scalar [] properties.tag.isNone)

/-- Reads a sequence that starts with a token. -/
def readSequence : (fuel depth : Nat) → Properties → Token → Reader Place
  | 0, _, _, _ => throw .malformed
  | _, 0, _, _ => throw .tooDeep
  | fuel + 1, depth + 1, properties, start => do
    let place ← addNode properties.anchor ⟨properties.collectionTag .seq, .sequence []⟩
    let items ← match start with
      | .flowSequence => do
        advance
        readFlowItems fuel depth true
      | .blockSequence => do
        advance
        let items ← readBlockItems fuel depth false
        expect .blockEnd
        pure items
      | _ => readBlockItems fuel depth true
    fill place (.sequence items)
    return place

/-- Reads a mapping that starts with a token. -/
def readMapping : (fuel depth : Nat) → Properties → Token → Reader Place
  | 0, _, _, _ => throw .malformed
  | _, 0, _, _ => throw .tooDeep
  | fuel + 1, depth + 1, properties, start => do
    let place ← addNode properties.anchor ⟨properties.collectionTag .map, .mapping []⟩
    advance
    let entries ← match start with
      | .flowMapping => readFlowEntries fuel depth true
      | _ => readBlockEntries fuel depth
    fill place (.mapping entries)
    return place

/-- Reads items behind hyphens. A sequence that is not indented also ends before the next key. -/
def readBlockItems : (fuel depth : Nat) → (flat : Bool) → Reader (List Place)
  | 0, _, _ => throw .malformed
  | fuel + 1, depth, flat => do
    match ← peek with
    | .dash =>
      advance
      let item ← match ← peek, flat with
        | .dash, _ | .blockEnd, _ | .key, true | .value, true => addAbsent
        | _, _ => readNode fuel depth .block
      return item :: (← readBlockItems fuel depth flat)
    | _ => return []

/-- Reads the entries of a block mapping and the end of it. -/
def readBlockEntries : (fuel depth : Nat) → Reader (List Entry)
  | 0, _ => throw .malformed
  | fuel + 1, depth => do
    match ← peek with
    | .key =>
      advance
      let key ← readPart fuel depth
      let value ← match ← peek with
        | .value => do
          advance
          readPart fuel depth
        | _ => addAbsent
      return (key, value) :: (← readBlockEntries fuel depth)
    | .blockEnd =>
      advance
      return []
    | _ => throw .malformed

/-- Reads a key or a value of a block mapping, which may be absent. -/
def readPart : (fuel depth : Nat) → Reader Place
  | 0, _ => throw .malformed
  | fuel + 1, depth => do
    match ← peek with
    | .key | .value | .blockEnd => addAbsent
    | _ => readNode fuel depth .entry

/-- Reads the items of a flow sequence and the end of it. An item with a key is a mapping of
its own. -/
def readFlowItems : (fuel depth : Nat) → (first : Bool) → Reader (List Place)
  | 0, _, _ => throw .malformed
  | fuel + 1, depth, first => do
    if (← peek) = .flowSequenceEnd then
      advance
      return []
    if !first then expect .comma
    match ← peek with
    | .flowSequenceEnd =>
      advance
      return []
    | .key =>
      advance
      match depth with
      | 0 => throw .tooDeep
      | inside + 1 =>
        let key ← readFlowPart fuel inside .flowSequenceEnd
        let value ← readFlowValue fuel inside .flowSequenceEnd
        let item ← addNode none ⟨.map, .mapping [(key, value)]⟩
        return item :: (← readFlowItems fuel depth false)
    | _ =>
      let item ← readNode fuel depth .flow
      return item :: (← readFlowItems fuel depth false)

/-- Reads the entries of a flow mapping and the end of it. -/
def readFlowEntries : (fuel depth : Nat) → (first : Bool) → Reader (List Entry)
  | 0, _, _ => throw .malformed
  | fuel + 1, depth, first => do
    if (← peek) = .flowMappingEnd then
      advance
      return []
    if !first then expect .comma
    match ← peek with
    | .flowMappingEnd =>
      advance
      return []
    | .key =>
      advance
      let key ← readFlowPart fuel depth .flowMappingEnd
      let value ← readFlowValue fuel depth .flowMappingEnd
      return (key, value) :: (← readFlowEntries fuel depth false)
    | _ =>
      let key ← readNode fuel depth .flow
      let value ← addAbsent
      return (key, value) :: (← readFlowEntries fuel depth false)

/-- Reads a key of a flow collection with a certain end; it may be absent. -/
def readFlowPart : (fuel depth : Nat) → (ending : Token) → Reader Place
  | 0, _, _ => throw .malformed
  | fuel + 1, depth, ending => do
    let token ← peek
    if token = .value || token = .comma || token = ending then addAbsent
    else readNode fuel depth .flow

/-- Reads a value of a flow collection with a certain end, with the colon before it; it may be
absent. -/
def readFlowValue : (fuel depth : Nat) → (ending : Token) → Reader Place
  | 0, _, _ => throw .malformed
  | fuel + 1, depth, ending => do
    if (← peek) = .value then
      advance
      let token ← peek
      if token = .comma || token = ending then addAbsent
      else readNode fuel depth .flow
    else addAbsent

end

/-- Reads the directives before a document. -/
def readDirectives : (fuel : Nat) → (versioned : Bool) → Reader Unit
  | 0, _ => throw .malformed
  | fuel + 1, versioned => do
    match ← peek with
    | .directive (.version major) =>
      if versioned || major ≠ 1 then throw .malformed
      advance
      readDirectives fuel true
    | .directive (.handle handle lead) =>
      if ((← get).handles.lookup handle).isSome then throw .malformed
      modify fun s => { s with handles := (handle, lead) :: s.handles }
      advance
      readDirectives fuel versioned
    | .directive .reserved =>
      advance
      readDirectives fuel versioned
    | _ => modify fun s => { s with handles := s.handles ++ standardHandles }

/-- Passes the marks behind a document. -/
def readEnds : (fuel : Nat) → Reader Unit
  | 0 => throw .malformed
  | fuel + 1 => do
    if (← peek) = .documentEnd then
      advance
      readEnds fuel

/-- Reads the root of the only document, if there is one. -/
def readRoot (fuel depth : Nat) : Reader (Option Place) := do
  match ← peek with
  | .finish => return none
  | .directive _ | .documentStart =>
    readDirectives fuel false
    expect .documentStart
    let root ← match ← peek with
      | .directive _ | .documentStart | .documentEnd | .finish => addAbsent
      | _ => readNode fuel depth .block
    readEnds fuel
    expect .finish
    return some root
  | _ =>
    modify fun s => { s with handles := standardHandles }
    let root ← readNode fuel depth .block
    readEnds fuel
    expect .finish
    return some root

/-- The document that tokens make up, if there is one. Collections may stand `depth` deep
inside one another; each token takes a few steps at most. -/
def ofTokens (depth : Nat) (tokens : List Token) : Except Fault (Option Document) := do
  let (root, reading) ← (readRoot (4 * tokens.length + 4) depth).run { tokens }
  return root.map fun root => ⟨reading.nodes, root⟩

end Document
end SignerPlugin.Yaml
