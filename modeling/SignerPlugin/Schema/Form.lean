import SignerPlugin.Json.Reader
import SignerPlugin.Json.Writer
import SignerPlugin.Schema.Codec

/-! Forms: kinds of messages, each with the name that reports give it. A message is read from
its text or from a tree, and either is made into a value or into one report of everything
wrong with it. -/

namespace SignerPlugin.Schema

/-- A kind of message. -/
structure Form (α : Type) where
  title : String
  codec : Codec α

namespace Form

variable {α : Type}

def conclude (form : Form α) : Checked α → Except Report α
  | .ok value => .ok value
  | .bad issues => .error ⟨form.title, issues⟩

/-- The value that the text of a message stands for. -/
def decode (form : Form α) (text : Bytes) : Except Report α :=
  match Json.parse? text with
  | some tree => form.conclude (form.codec.read tree)
  | none => .error ⟨form.title, [⟨[], .invalidJson⟩]⟩

/-- The value that a tree stands for which was not read from a message. -/
def ofTree (form : Form α) (tree : Json) : Except Report α :=
  form.conclude ((form.codec.read tree).mapCause Cause.ofValue)

/-- The tree of a value. -/
def toTree (form : Form α) (style : Style) (value : α) : Json := form.codec.write style value

/-- The text of a value on the wire. -/
def encode (form : Form α) (value : α) : String := Json.render (form.codec.write .wire value)

end Form
end SignerPlugin.Schema
