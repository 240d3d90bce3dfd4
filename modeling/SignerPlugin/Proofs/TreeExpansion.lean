import SignerPlugin.Config.Expansion
import SignerPlugin.Proofs.References

/-! What becomes of a configuration tree when the references in its texts are replaced: the
same tree with other texts. The one thing besides a text that can stop this is containers that
stand too deep inside one another. -/

namespace SignerPlugin.Config

open Text (CodeText)

namespace Tree

/-! ### The texts of a tree -/

theorem sizeOf_value_lt {entries : Entries} {entry : Tree × Tree} (among : entry ∈ entries) :
    sizeOf entry.2 < sizeOf (map entries) := by
  have smaller := List.sizeOf_lt_of_mem among
  obtain ⟨key, value⟩ := entry
  simp only [Prod.mk.sizeOf_spec, map.sizeOf_spec] at smaller ⊢
  omega

theorem sizeOf_item_lt {items : List Tree} {item : Tree} (among : item ∈ items) :
    sizeOf item < sizeOf (list items) := by
  have smaller := List.sizeOf_lt_of_mem among
  simp only [list.sizeOf_spec]
  omega

/-- The texts that stand in a tree as values, from the first to the last; keys are no such texts. -/
def texts : Tree → List CodeText
  | .text value => [value]
  | .list items => items.flatMap texts
  | .map entries => entries.flatMap fun entry => entry.2.texts
  | _ => []
termination_by tree => tree
decreasing_by
  · exact sizeOf_item_lt ‹_›
  · exact sizeOf_value_lt ‹_›

/-- The tree with other texts in the places of its own. -/
def mapTexts (f : CodeText → CodeText) : Tree → Tree
  | .text value => .text (f value)
  | .list items => .list (items.map (mapTexts f))
  | .map entries => .map (entries.map fun entry => (entry.1, entry.2.mapTexts f))
  | tree => tree
termination_by tree => tree
decreasing_by
  · exact sizeOf_item_lt ‹_›
  · exact sizeOf_value_lt ‹_›

/-- The containers of a tree stand at most this deep inside one another, and it has an end. -/
def Fits : (depth : Nat) → Tree → Prop
  | _, .endless => False
  | 0, .list _ | 0, .map _ => False
  | depth + 1, .list items => ∀ item ∈ items, item.Fits depth
  | depth + 1, .map entries => ∀ entry ∈ entries, entry.2.Fits depth
  | _, _ => True

/-- What a text becomes; a text that fails stays as it is. -/
def expanded (env : Environment) (text : CodeText) : CodeText :=
  (expandText env text).toOption.getD text

/-- Nothing can be inside the tree. -/
def isLeaf : Tree → Bool
  | .list _ | .map _ | .endless => false
  | _ => true

variable {env env' : Environment} {depth : Nat} {tree result : Tree} {fault : ExpansionFault}

/-! ### Trees that fit -/

/-- Steps that each expand some texts expand all of them in turn. -/
theorem mapM_expansions {α β ε : Type} {expand : CodeText → Except UnsetVariable ε}
    (texts : α → List CodeText) (make : α → β) (xs : List α) :
    (xs.mapM fun x => (((texts x).mapM expand).mapError ExpansionFault.unset).map fun _ => make x) =
      (((xs.flatMap texts).mapM expand).mapError ExpansionFault.unset).map fun _ =>
        xs.map make := by
  induction xs with
  | nil => rfl
  | cons x xs ih =>
    rw [List.mapM_cons, ih, List.flatMap_cons, List.mapM_append]
    cases (texts x).mapM expand with
    | error missing => rfl
    | ok first => cases (xs.flatMap texts).mapM expand <;> rfl

theorem expandWithin_of_leaf (leaf : tree.isLeaf) : tree.expandWithin env depth =
    ((tree.texts.mapM (expandText env)).mapError .unset).map fun _ =>
      tree.mapTexts (expanded env) := by
  cases tree with
  | text value =>
    rw [expandWithin_text, texts, mapTexts, List.mapM_cons, expanded]
    cases expandText env value <;> rfl
  | list items => cases leaf
  | map entries => cases leaf
  | endless => cases leaf
  | _ =>
    rw [texts, mapTexts]
    · cases depth <;> rfl
    all_goals nofun

/-- A tree that fits fails as its texts do, one after the other, or becomes the same tree with
what they become. -/
theorem expandWithin_of_fits (fits : tree.Fits depth) : tree.expandWithin env depth =
    ((tree.texts.mapM (expandText env)).mapError .unset).map fun _ =>
      tree.mapTexts (expanded env) := by
  induction depth generalizing tree with
  | zero =>
    cases tree with
    | list items => exact fits.elim
    | map entries => exact fits.elim
    | endless => exact fits.elim
    | _ => exact expandWithin_of_leaf rfl
  | succ depth ih =>
    cases tree with
    | list items =>
      rw [expandWithin_list, mapM_congr fun item among => ih (fits item among), mapM_expansions,
        texts, mapTexts]
      cases (items.flatMap texts).mapM (expandText env) <;> rfl
    | map entries =>
      have each (entry : Tree × Tree) (among : entry ∈ entries) :
          (expandWithin env depth entry.2).map (entry.1, ·) =
            ((entry.2.texts.mapM (expandText env)).mapError .unset).map fun _ =>
              (entry.1, entry.2.mapTexts (expanded env)) := by
        rw [ih (fits entry among)]
        cases entry.2.texts.mapM (expandText env) <;> rfl
      rw [expandWithin_map, mapM_congr each,
        mapM_expansions fun entry : Tree × Tree => entry.2.texts, texts, mapTexts]
      cases (entries.flatMap fun entry => entry.2.texts).mapM (expandText env) <;> rfl
    | endless => exact fits.elim
    | _ => exact expandWithin_of_leaf rfl

/-! ### Trees that do not fit -/

/-- Only a tree that fits becomes another one. -/
theorem fits_of_expandWithin (made : tree.expandWithin env depth = .ok result) :
    tree.Fits depth := by
  induction depth generalizing tree result with
  | zero =>
    cases tree with
    | list items => cases made
    | map entries => cases made
    | endless => cases made
    | _ => trivial
  | succ depth ih =>
    cases tree with
    | list items =>
      rw [expandWithin_list] at made
      obtain ⟨results, each, -⟩ := map_eq_ok.mp made
      intro item among
      obtain ⟨_, inside⟩ := exists_of_mapM each among
      exact ih inside
    | map entries =>
      rw [expandWithin_map] at made
      obtain ⟨results, each, -⟩ := map_eq_ok.mp made
      intro entry among
      obtain ⟨_, inside⟩ := exists_of_mapM each among
      obtain ⟨_, inside, -⟩ := map_eq_ok.mp inside
      exact ih inside
    | endless => cases made
    | _ => trivial

theorem missing_of_text {missing : UnsetVariable} {value : CodeText}
    (failed : (Tree.text value).expandWithin env depth = .error (.unset missing)) :
    ∃ text ∈ (Tree.text value).texts, expandText env text = .error missing := by
  rw [expandWithin_text] at failed
  refine ⟨value, by simp [texts], ?_⟩
  cases expanded : expandText env value with
  | ok _ =>
    rw [expanded] at failed
    cases failed
  | error other =>
    rw [expanded] at failed
    cases failed
    rfl

/-- A variable is missed only where a text of the tree asks for it. -/
private theorem missing_of_expandWithin {missing : UnsetVariable}
    (failed : tree.expandWithin env depth = .error (.unset missing)) :
    ∃ text ∈ tree.texts, expandText env text = .error missing := by
  induction depth generalizing tree with
  | zero =>
    cases tree with
    | text value => exact missing_of_text failed
    | _ => cases failed
  | succ depth ih =>
    cases tree with
    | text value => exact missing_of_text failed
    | list items =>
      rw [expandWithin_list] at failed
      obtain ⟨before, item, after, rfl, -, inside⟩ := mapM_eq_error.mp (map_eq_error.mp failed)
      obtain ⟨text, among, missed⟩ := ih inside
      exact ⟨text, by simp [texts, among], missed⟩
    | map entries =>
      rw [expandWithin_map] at failed
      obtain ⟨before, entry, after, rfl, -, inside⟩ := mapM_eq_error.mp (map_eq_error.mp failed)
      obtain ⟨text, among, missed⟩ := ih (map_eq_error.mp inside)
      exact ⟨text, by simp [texts, among], missed⟩
    | _ => cases failed

/-! ### The variables that count -/

theorem expandWithin_congr
    (agree : ∀ text ∈ tree.texts, expandText env text = expandText env' text) :
    tree.expandWithin env depth = tree.expandWithin env' depth := by
  induction depth generalizing tree with
  | zero =>
    cases tree with
    | text value => rw [expandWithin_text, expandWithin_text, agree value (by simp [texts])]
    | _ => rfl
  | succ depth ih =>
    cases tree with
    | text value => rw [expandWithin_text, expandWithin_text, agree value (by simp [texts])]
    | list items =>
      rw [texts] at agree
      rw [expandWithin_list, expandWithin_list, mapM_congr fun item among => ih fun text inside =>
        agree text (List.mem_flatMap.mpr ⟨item, among, inside⟩)]
    | map entries =>
      rw [texts] at agree
      rw [expandWithin_map, expandWithin_map, mapM_congr fun entry among => by
        rw [ih fun text inside => agree text (List.mem_flatMap.mpr ⟨entry, among, inside⟩)]]
    | _ => rfl

/-! ### Whole trees -/

theorem expandWithin_eq_ok : tree.expandWithin env depth = .ok result ↔ tree.Fits depth ∧
    (∀ text ∈ tree.texts, ∃ value, expandText env text = .ok value) ∧
      result = tree.mapTexts (expanded env) := by
  constructor
  · intro made
    have fits := fits_of_expandWithin made
    rw [expandWithin_of_fits fits] at made
    cases each : tree.texts.mapM (expandText env) with
    | error missing =>
      rw [each] at made
      cases made
    | ok values =>
      rw [each] at made
      cases made
      exact ⟨fits, fun text among => exists_of_mapM each among, rfl⟩
  · rintro ⟨fits, each, rfl⟩
    rw [expandWithin_of_fits fits]
    cases expands : tree.texts.mapM (expandText env) with
    | ok values => rfl
    | error missing =>
      obtain ⟨before, text, after, parts, -, failed⟩ := mapM_eq_error.mp expands
      obtain ⟨value, passed⟩ := each text (by simp [parts])
      cases failed.symm.trans passed

theorem expandWithin_eq_error (fits : tree.Fits depth) :
    tree.expandWithin env depth = .error fault ↔
    ∃ before text after missing, tree.texts = before ++ text :: after ∧
      (∀ other ∈ before, ∃ value, expandText env other = .ok value) ∧
        expandText env text = .error missing ∧
      fault = .unset missing := by
  have fails : tree.expandWithin env depth = .error fault ↔
      ∃ missing, tree.texts.mapM (expandText env) = .error missing ∧ fault = .unset missing := by
    rw [expandWithin_of_fits fits]
    cases tree.texts.mapM (expandText env) <;> simp [Except.map, Except.mapError, eq_comm]
  rw [fails]
  constructor
  · rintro ⟨missing, failed, rfl⟩
    obtain ⟨before, text, after, parts, passed, failed⟩ := mapM_eq_error.mp failed
    exact ⟨before, text, after, missing, parts, passed, failed, rfl⟩
  · rintro ⟨before, text, after, missing, parts, passed, failed, rfl⟩
    exact ⟨missing, mapM_eq_error.mpr ⟨before, text, after, parts, passed, failed⟩, rfl⟩

/-- A tree that does not fit is too deep, whatever the texts in it become. -/
theorem expandWithin_deep (deep : ¬ tree.Fits depth)
    (each : ∀ text ∈ tree.texts, ∃ value, expandText env text = .ok value) :
    tree.expandWithin env depth = .error .tooDeep := by
  cases made : tree.expandWithin env depth with
  | ok result => exact absurd (fits_of_expandWithin made) deep
  | error fault =>
    cases fault with
    | tooDeep => rfl
    | unset missing =>
      obtain ⟨text, among, failed⟩ := missing_of_expandWithin made
      obtain ⟨value, passed⟩ := each text among
      cases failed.symm.trans passed

end Tree

/-- Replacing the references in texts and in trees. A text has pieces of one kind only; it
becomes what they give, and fails for the first reference for which there is nothing to put
in. A tree becomes the same tree with what its texts become, and fails as the first of them
does; but it must fit the depth that there is. Variables that its texts do not ask for do not
count. -/
theorem expansion_lawful (env : Environment) :
    (∀ text, ∃ pieces, (∀ others, Parted text others ↔ others = pieces) ∧
      (∀ result, expandText env text = .ok result ↔
        ∃ parts, List.Forall₂ (Piece.Gives env) pieces parts ∧ result = parts.flatten) ∧
      ∀ fault, expandText env text = .error fault ↔
        ∃ before reference after, pieces = before ++ .reference reference :: after ∧
          (∀ other, Piece.reference other ∈ before → ¬ other.IsUnset env) ∧ reference.IsUnset env ∧
          fault = ⟨reference.name⟩) ∧
    ∀ (tree : Tree) (depth : Nat),
      (∀ result, tree.expandWithin env depth = .ok result ↔ tree.Fits depth ∧
        (∀ text ∈ tree.texts, ∃ value, expandText env text = .ok value) ∧
        result = tree.mapTexts (Tree.expanded env)) ∧
      (tree.Fits depth → ∀ fault, tree.expandWithin env depth = .error fault ↔
        ∃ before text after missing, tree.texts = before ++ text :: after ∧
          (∀ other ∈ before, ∃ value, expandText env other = .ok value) ∧
            expandText env text = .error missing ∧ fault = .unset missing) ∧
      (¬ tree.Fits depth → (∀ text ∈ tree.texts, ∃ value, expandText env text = .ok value) →
        tree.expandWithin env depth = .error .tooDeep) ∧
      ∀ env' : Environment, (∀ text ∈ tree.texts, ∀ pieces, Parted text pieces → ∀ reference,
        Piece.reference reference ∈ pieces → env reference.name = env' reference.name) →
        tree.expandWithin env depth = tree.expandWithin env' depth := by
  refine ⟨fun text => ⟨Piece.ofText text,
    fun others => ?_, fun _ => expandText_eq_ok, fun _ => expandText_eq_error⟩,
    fun tree depth =>
      ⟨fun _ => Tree.expandWithin_eq_ok, fun fits _ => Tree.expandWithin_eq_error fits,
      Tree.expandWithin_deep,
      fun env' agree => Tree.expandWithin_congr fun text among => expandText_congr ?_⟩⟩
  · exact ⟨fun parted => parted.eq_ofText.symm, fun same => same ▸ parted_ofText text⟩
  · exact agree text among _ (parted_ofText text)

/-- Lists inside one another, and nothing else. -/
def Tree.nested : Nat → Tree
  | 0 => .list []
  | count + 1 => .list [nested count]

private theorem Tree.fits_nested_iff {depth count : Nat} :
    (nested count).Fits depth ↔ count < depth := by
  induction count generalizing depth with
  | zero => cases depth <;> simp [nested, Fits]
  | succ count ih => cases depth <;> simp [nested, Fits, ih]

private theorem Tree.texts_nested (count : Nat) : (nested count).texts = [] := by
  induction count with
  | zero => simp [nested, texts]
  | succ count ih => simp [nested, texts, ih]

/-- Not every tree is expanded whose texts all are: one without any text need not fit. -/
theorem nested_unexpanded :
    (Tree.nested 600).texts = [] ∧
      ∀ depth ≤ 600, (Tree.nested 600).expandWithin (fun _ => none) depth = .error .tooDeep := by
  have without := Tree.texts_nested 600
  refine ⟨without, fun depth shallow => Tree.expandWithin_deep ?_ ?_⟩
  · rw [Tree.fits_nested_iff]
    omega
  · rw [without]
    nofun

end SignerPlugin.Config
