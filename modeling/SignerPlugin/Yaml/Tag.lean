import SignerPlugin.Yaml.Moment
import SignerPlugin.Yaml.Number

/-! Tags: what kind of value a node is. A node without tag has the kind that its shape gives
it, and a plain scalar the kind that it looks like. -/

namespace SignerPlugin.Yaml

open Text (CodeText)

inductive Tag
  | null
  | bool
  | int
  | float
  | binary
  | timestamp
  | str
  | seq
  | map
  | set
  | pairs
  | omap
  /-- The key whose value is merged into the mapping around it. -/
  | merge
  /-- The key whose value stands for the mapping around it where a scalar is wanted. -/
  | value
  /-- Any other tag; there are no values of its kind. -/
  | unknown
  deriving DecidableEq, Repr

namespace Tag

/-- What the handle `!!` stands for. -/
def lead : String := "tag:yaml.org,2002:"

def words : List (String × Tag) :=
  [("null", .null), ("bool", .bool), ("int", .int), ("float", .float), ("binary", .binary),
    ("timestamp", .timestamp), ("str", .str), ("seq", .seq), ("map", .map), ("set", .set),
    ("pairs", .pairs), ("omap", .omap), ("merge", .merge), ("value", .value)]

/-- The tag that is spelled out in full. -/
def ofText (text : String) : Tag :=
  ((words.find? fun entry => lead ++ entry.1 = text).map (·.2)).getD .unknown

/-- Whether values of the kind are collections. -/
def isCollection : Tag → Bool
  | .seq | .map | .set | .pairs | .omap => true
  | _ => false

/-- The truth value that a word in small letters means. -/
def truth? (word : String) : Option Bool :=
  if ["yes", "true", "on"].contains word then some true
  else if ["no", "false", "off"].contains word then some false
  else none

/-- Whether a plain scalar is a truth value: a word in small letters, in capital letters, or with a
capital letter in front. -/
def isTruth (text : String) : Bool :=
  let small := text.map Char.toLower
  (truth? small).isSome && (text = small || text = text.map Char.toUpper || text = small.capitalize)

/-- The kind that characters without quotes look like. -/
def ofChars (chars : List Char) : Tag :=
  let text := String.ofList chars
  if isTruth text then .bool
  else if isFloat chars then .float
  else if isInteger chars then .int
  else if text = "<<" then .merge
  else if ["~", "null", "Null", "NULL"].contains text then .null
  else if Moment.isMoment chars then .timestamp
  else if text = "=" then .value
  else if ["!", "&", "*"].contains text then .unknown
  else .str

/-- The kind that a plain scalar looks like. -/
def ofPlain (text : CodeText) : Tag :=
  match text.chars? with
  | some [] => .null
  | some chars => ofChars (withoutLastBreak chars)
  | none => .str

end Tag
end SignerPlugin.Yaml
