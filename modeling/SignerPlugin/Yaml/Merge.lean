import SignerPlugin.Yaml.Fault
import SignerPlugin.Yaml.Node

/-! Merge keys: the entries of the mappings that they name are taken over, in front of the
mapping's own ones. The merge keys themselves are gone afterwards, and a value key is an
ordinary text. -/

namespace SignerPlugin.Yaml.Nodes

/-- The entries before the first merge key, the value of that, and the entries behind it. -/
def splitAtMerge? (nodes : Nodes) (entries : List Entry) :
    Option (List Entry × Place × List Entry) :=
  match entries.dropWhile fun entry => !nodes.isMerge entry with
  | [] => none
  | entry :: behind => some (entries.takeWhile fun entry => !nodes.isMerge entry, entry.2, behind)

/-- Value keys among entries become texts. -/
def settleKeys (nodes : Nodes) (entries : List Entry) : Nodes :=
  entries.foldl (fun nodes entry => if nodes.tag entry.1 =
    .value then nodes.setTag entry.1 .str else nodes) nodes

/-- The entries that the value of a merge key stands for: those of a mapping, or of a sequence
of mappings, of which the last come first. Merging is done in each of them before. -/
def takeOver (mergeOne : Nodes → Place → Except Fault Nodes) (nodes : Nodes) (value : Place) :
    Except Fault (Nodes × List Entry) :=
  match nodes.content value with
  | .scalar _ => .error .malformed
  | .mapping _ => (mergeOne nodes value).map fun nodes => (nodes, (nodes.entries? value).getD [])
  | .sequence items => items.foldlM (fun (nodes, taken) item => do
      if (nodes.entries? item).isNone then throw .malformed
      let nodes ← mergeOne nodes item
      return (nodes, (nodes.entries? item).getD [] ++ taken)) (nodes, [])

/-- Merges what the merge keys of a mapping name, from its entry at `index` on; `taken` are
the entries found for those before it. Every step removes a merge key, of which the fuel
bounds the number. -/
def mergeFrom : (fuel : Nat) → (nodes : Nodes) → Place → (index : Nat) → (taken : List Entry) →
    Except Fault Nodes
  | 0, _, _, _, _ => .error .tooDeep
  | fuel + 1, nodes, place, index, taken =>
    let entries := (nodes.entries? place).getD []
    let nodes := nodes.settleKeys (entries.drop index)
    match nodes.splitAtMerge? (entries.drop index) with
    | none => .ok (nodes.setContent place (.mapping (taken ++ entries)))
    | some (front, value, behind) => do
      let nodes := nodes.setContent place (.mapping (entries.take index ++ front ++ behind))
      let (nodes, more) ← takeOver (fun nodes place => mergeFrom fuel nodes place 0 []) nodes value
      mergeFrom fuel nodes place (index + front.length) (taken ++ more)

/-- Merges what the merge keys of a mapping name; all mappings have at most `count` of them. -/
def merge (nodes : Nodes) (count : Nat) (place : Place) : Except Fault Nodes :=
  mergeFrom (count + 1) nodes place 0 []

end SignerPlugin.Yaml.Nodes
