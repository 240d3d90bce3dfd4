import SignerPlugin.Config.Reference
import SignerPlugin.Config.Tree

/-! References in a whole configuration: those in its texts are replaced, at any depth. Keys stay as
they are, and so does everything that is no text. -/

namespace SignerPlugin.Config

open Text (CodeText)

/-- Why a configuration cannot be expanded. -/
inductive ExpansionFault
  | unset (missing : UnsetVariable)
  | tooDeep
  deriving DecidableEq, Repr

namespace Tree

mutual

/-- The tree with the references in its texts replaced. `depth` more containers may be entered. -/
def expandWithin (env : Environment) : (depth : Nat) → Tree → Except ExpansionFault Tree
  | _, .text value => ((expandText env value).mapError .unset).map .text
  | 0, .list _ | 0, .map _ | _, .endless => .error .tooDeep
  | depth + 1, .list items => (expandItems env depth items).map .list
  | depth + 1, .map entries => (expandEntries env depth entries).map .map
  | _, tree => .ok tree

private def expandItems (env : Environment) (depth : Nat) :
    List Tree → Except ExpansionFault (List Tree)
  | [] => .ok []
  | item :: rest => do
    let item ← expandWithin env depth item
    let rest ← expandItems env depth rest
    return item :: rest

private def expandEntries (env : Environment) (depth : Nat) :
    Entries → Except ExpansionFault Entries
  | [] => .ok []
  | (key, value) :: rest => do
    let value ← expandWithin env depth value
    let rest ← expandEntries env depth rest
    return (key, value) :: rest

end

private theorem expandItems_eq (env : Environment) (depth : Nat) (items : List Tree) :
    expandItems env depth items = items.mapM (expandWithin env depth) := by
  induction items with
  | nil => rfl
  | cons item rest ih => rw [expandItems, ih, List.mapM_cons]

private theorem expandEntries_eq (env : Environment) (depth : Nat) (entries : Entries) :
    expandEntries env depth entries =
      entries.mapM fun entry => (expandWithin env depth entry.2).map (entry.1, ·) := by
  induction entries with
  | nil => rfl
  | cons entry rest ih =>
    obtain ⟨key, value⟩ := entry
    rw [expandEntries, ih, List.mapM_cons]
    cases expandWithin env depth value <;> rfl

theorem expandWithin_text (env : Environment) (depth : Nat) (value : CodeText) :
    expandWithin env depth (.text value) = ((expandText env value).mapError .unset).map .text := by
  cases depth <;> rfl

theorem expandWithin_endless (env : Environment) (depth : Nat) :
    expandWithin env depth .endless = .error .tooDeep := by
  cases depth <;> rfl

theorem expandWithin_list (env : Environment) (depth : Nat) (items : List Tree) :
    expandWithin env (depth + 1) (.list items) =
      (items.mapM (expandWithin env depth)).map .list := by
  rw [expandWithin, expandItems_eq]

theorem expandWithin_map (env : Environment) (depth : Nat) (entries : Entries) :
    expandWithin env (depth + 1) (.map entries) =
      (entries.mapM fun entry => (expandWithin env depth entry.2).map (entry.1, ·)).map .map := by
  rw [expandWithin, expandEntries_eq]

end Tree
end SignerPlugin.Config
