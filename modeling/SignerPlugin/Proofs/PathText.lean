import SignerPlugin.Proofs.FilePlaces

/-! Paths and their texts. A text names a path in normal form, and a path in normal form is
the one that its own text names, so nothing is lost when a path is written down to be followed
later. -/

namespace SignerPlugin

namespace Path

variable {path base : Path} {name text : String}

/-! ### Splitting at slashes -/

private theorem split_eq_splitOn (letters : List Char) : split letters = letters.splitOn '/' := by
  induction letters with
  | nil => rfl
  | cons c rest ih =>
    rw [List.splitOn_cons_eq_if_modifyHead]
    by_cases slash : c = '/'
    · subst slash
      rw [split, ih]
      rfl
    · rw [if_neg (by simpa using slash), split.eq_3 c rest slash, ih]
      cases parts : rest.splitOn '/' with
      | nil => exact absurd parts (List.splitOn_ne_nil _ _)
      | cons _ _ => rfl

private theorem slash_notMem_of_mem_split {letters part : List Char}
    (among : part ∈ split letters) : '/' ∉ part := by
  induction letters generalizing part with
  | nil =>
    rw [List.mem_singleton.mp among]
    exact List.not_mem_nil
  | cons c rest ih =>
    by_cases slash : c = '/'
    · subst slash
      rcases List.mem_cons.mp (by simpa [split] using among) with rfl | later
      · exact List.not_mem_nil
      · exact ih later
    · rw [split.eq_3 c rest slash] at among
      cases parts : split rest with
      | nil =>
        rw [parts] at among
        simpa [List.mem_singleton.mp among] using Ne.symm slash
      | cons first others =>
        rw [parts] at among
        rcases List.mem_cons.mp among with rfl | later
        · have apart : '/' ∉ first := ih (by simp [parts])
          simpa [Ne.symm slash] using apart
        · exact ih (by simp [parts, later])

/-! ### Normal form -/

/-- What a path can start with. -/
def IsRoot (root : String) : Prop := root = "" ∨ root = "/" ∨ root = "//"

/-- A step of a path, be it upwards. -/
structure IsStep (name : String) : Prop where
  word : name ≠ ""
  moves : name ≠ "."
  plain : '/' ∉ name.toList

/-- A path as a text names it. -/
structure IsNormal (path : Path) : Prop where
  root : IsRoot path.root
  names : ∀ name ∈ path.names, IsStep name

private theorem isRoot_rootOf (slashes : Nat) : IsRoot (rootOf slashes) := by
  unfold rootOf
  split
  · exact .inl rfl
  · split
    · exact .inr (.inr rfl)
    · exact .inr (.inl rfl)

theorem isNormal_ofText (text : String) : (ofText text).IsNormal := by
  refine ⟨isRoot_rootOf _, fun name among => ?_⟩
  obtain ⟨listed, kept⟩ := List.mem_filter.mp among
  obtain ⟨part, split, rfl⟩ := List.mem_map.mp listed
  simp only [ne_eq, decide_not, Bool.and_eq_true, Bool.not_eq_eq_eq_not, Bool.not_true,
    decide_eq_false_iff_not] at kept
  exact ⟨kept.1, kept.2, by simpa using slash_notMem_of_mem_split split⟩

theorem IsNormal.join (first : base.IsNormal) (second : path.IsNormal) :
    (base.join path).IsNormal := by
  unfold Path.join
  split
  · exact ⟨first.root, fun name among => (List.mem_append.mp among).elim (first.names name)
      (second.names name)⟩
  · exact second

/-! ### Writing and reading again -/

/-- The names between slashes, when no slash stands in a name. -/
theorem split_intercalate {names : List String} (plain : ∀ name ∈ names, '/' ∉ name.toList)
    (some : names ≠ []) :
    (split ("/".intercalate names).toList).map String.ofList = names := by
  rw [split_eq_splitOn, String.toList_intercalate]
  have parts : (['/'].intercalate (names.map String.toList)).splitOn '/' =
      names.map String.toList :=
    List.splitOn_intercalate '/' (by simpa using plain) (by simpa using some)
  change (List.splitOn '/' (['/'].intercalate _)).map String.ofList = names
  simp [parts]

/-- The slashes in front make the root, and what is behind them is read name by name. -/
theorem ofText_append {root body : String} (rooted : IsRoot root)
    (first : body.toList.head? ≠ some '/') :
    ofText (root ++ body) = ⟨root, (ofText body).names⟩ := by
  have stops : body.toList.takeWhile (· = '/') = [] := by
    cases letters : body.toList with
    | nil => rfl
    | cons c rest => simpa [letters, List.takeWhile_cons] using first
  obtain rfl | rfl | rfl := rooted <;> simp [ofText, split, stops, rootOf]

private theorem head?_intercalate {names : List String} (steps : ∀ name ∈ names, IsStep name) :
    ("/".intercalate names).toList.head? ≠ some '/' := by
  cases names with
  | nil => simp
  | cons name rest =>
    obtain ⟨word, -, plain⟩ := steps name List.mem_cons_self
    cases letters : name.toList with
    | nil => exact absurd (String.toList_eq_nil_iff.mp letters) word
    | cons c others =>
      have apart : c ≠ '/' := fun same => plain (by rw [letters, same]; exact List.mem_cons_self)
      cases rest <;> simpa [letters] using apart

/-- A text made of a root and names is read as them. -/
theorem ofText_intercalate {root : String} {names : List String} (rooted : IsRoot root)
    (steps : ∀ name ∈ names, IsStep name) (some : names ≠ []) :
    ofText (root ++ "/".intercalate names) = ⟨root, names⟩ := by
  rw [ofText_append rooted (head?_intercalate steps)]
  have listed : (ofText ("/".intercalate names)).names = names := by
    simp only [ofText]
    rw [split_intercalate (fun name among => (steps name among).plain) some, List.filter_eq_self]
    intro name among
    simp [(steps name among).word, (steps name among).moves]
  rw [listed]

theorem ofText_step (step : IsStep name) : ofText name = ⟨"", [name]⟩ := by
  have single : ofText ("" ++ "/".intercalate [name]) = ⟨"", [name]⟩ :=
    ofText_intercalate (.inl rfl) (by simpa using step) (by simp)
  simpa using single

theorem toText_of_names (path : Path) (words : ∀ name ∈ path.names, name ≠ "")
    (some : path.names ≠ []) :
    path.toText = path.root ++ "/".intercalate path.names := by
  obtain ⟨root, names⟩ := path
  cases names with
  | nil => exact absurd rfl some
  | cons name rest =>
    have first := words name List.mem_cons_self
    cases rest <;> simp [toText, first]

/-- A path in normal form is read from its text. -/
theorem IsNormal.ofText_toText (normal : path.IsNormal) : ofText path.toText = path := by
  by_cases none : path.names = []
  · obtain ⟨root, names⟩ := path
    cases none
    obtain rfl | rfl | rfl := normal.root <;> decide
  · rw [toText_of_names path (fun name among => (normal.names name among).word) none]
    exact ofText_intercalate normal.root normal.names none

/-! ### Children -/

/-- The path with one more name. -/
def child (base : Path) (name : String) : Path := ⟨base.root, base.names ++ [name]⟩

@[simp]
theorem child_parent (base : Path) (name : String) : (base.child name).parent = base := by
  simp [child, parent]

@[simp]
theorem child_name (base : Path) (name : String) : (base.child name).name = name := by
  simp [child, Path.name]

/-- The text of a child is its name behind some text; that of a path with names is what comes
first. -/
theorem toText_child (normal : base.IsNormal) (word : name ≠ "") :
    (base.child name).toText = if base.names = [] then base.root ++ name else base.toText ++
      "/" ++ name := by
  have words : ∀ other ∈ (base.child name).names, other ≠ "" := by
    intro other among
    rcases List.mem_append.mp among with inside | last
    · exact (normal.names other inside).word
    · rw [List.mem_singleton.mp last]
      exact word
  rw [toText_of_names _ words (List.concat_ne_nil _ _)]
  by_cases none : base.names = []
  · simp [Path.child, none]
  · rw [if_neg none, toText_of_names base (fun other among => (normal.names other among).word) none]
    simp [Path.child, String.intercalate_append_of_ne_nil none (List.cons_ne_nil _ _),
      String.append_assoc]

/-- The child of the empty path is written as its name alone, and no other child is. -/
theorem slash_mem_toText_child (normal : base.IsNormal) (step : IsStep name) :
    '/' ∈ (base.child name).toText.toList ↔ base ≠ ⟨"", []⟩ := by
  rw [toText_child normal step.word]
  obtain ⟨root, names⟩ := base
  cases names with
  | nil => obtain rfl | rfl | rfl := normal.root <;> simp [step.plain]
  | cons first rest => simp

end Path

namespace FileTree

variable {tree : FileTree} {start : Location} {names : List String} {name : String}
  {base : Path} {found : Place}

/-- One name more leads to what stands under it in the directory where the others lead. -/
theorem Leads.concat (leads : Leads tree start (names ++ [name]) found) (down : name ≠ "..") :
    ∃ location, Leads tree start names (.directory location) ∧
      found = .standing (location ++ [name]) (tree.node? (location ++ [name])) := by
  induction names generalizing start with
  | nil =>
    refine ⟨start, .here start, ?_⟩
    cases leads with
    | up _ => exact absurd rfl down
    | into _ _ node leads =>
      cases leads
      rw [node]
      rfl
    | last _ _ => rfl
  | cons first rest ih =>
    rw [List.cons_append] at leads
    generalize behind : rest ++ [name] = others at leads
    cases leads with
    | up leads =>
      obtain ⟨location, leads, same⟩ := ih (behind ▸ leads)
      exact ⟨location, .up leads, same⟩
    | into apart short node leads =>
      obtain ⟨location, leads, same⟩ := ih (behind ▸ leads)
      exact ⟨location, .into apart short node leads, same⟩
    | last _ _ => exact absurd behind (List.concat_ne_nil _ _)

/-- A child leads into the directory to which its parent leads, and to what stands there under
its name. -/
theorem place_child (normal : base.IsNormal) (word : name ≠ "") (down : name ≠ "..")
    (leads : tree.place (base.child name) = .ok found) :
    ∃ location, tree.place base = .ok (.directory location) ∧
      found = .standing (location ++ [name]) (tree.node? (location ++ [name])) := by
  obtain ⟨⟨plain, short⟩, leads⟩ := place_eq_ok.mp leads
  obtain ⟨location, leads, same⟩ := leads.concat down
  refine ⟨location, place_eq_ok.mpr ⟨?_, leads⟩, same⟩
  rw [Path.toText_child normal word] at plain short
  by_cases none : base.names = []
  · obtain ⟨root, names⟩ := base
    cases none
    obtain rfl | rfl | rfl := normal.root <;> decide
  · rw [if_neg none] at plain short
    simp only [String.utf8ByteSize_append, String.toList_append, List.contains_eq_mem,
      List.mem_append, decide_eq_true_eq] at plain short ⊢
    exact ⟨fun null => plain (.inl (.inl null)), by omega⟩

end FileTree

end SignerPlugin
