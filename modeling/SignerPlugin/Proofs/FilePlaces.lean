import Mathlib.Data.List.Induction
import SignerPlugin.FileTree

/-! Where paths lead, and what becomes of that when something is made. Directories come only
to where nothing stood; a file that is written stands where its path leads from then on. In a
tree where everything stands in a directory, a path without steps upwards that leads nowhere
leads nowhere after directories were made. -/

namespace SignerPlugin.FileTree

variable {tree ready last : FileTree} {start location other : Location} {names : List String}
  {path : Path} {found : Place} {content : Bytes} {mode : Nat}

theorem node?_put_same (apart : location ≠ []) (node : FileNode) :
    (tree.put location node).node? location = some node := by
  simp [node?, put, apart]

theorem node?_put_other (apart : other ≠ location) (node : FileNode) :
    (tree.put location node).node? other = tree.node? other := by
  have missed : (other == location) = false := beq_false_of_ne apart
  simp [node?, put, List.lookup_cons, missed]

/-! ### Following names -/

/-- The place at a location, by what stands there. -/
def Place.standing (location : Location) : Option FileNode → Place
  | some .directory => .directory location
  | some (.file content mode) => .file location content mode
  | some .device => .device location
  | none => .vacant location

/-- Where names lead from a directory on. -/
inductive Leads (tree : FileTree) : Location → List String → Place → Prop
  | here (start : Location) : Leads tree start [] (.directory start)
  | up {start : Location} {rest : List String} {found : Place}
      (leads : Leads tree start.dropLast rest found) :
      Leads tree start (".." :: rest) found
  | into {start : Location} {name : String} {rest : List String} {found : Place}
      (down : name ≠ "..") (short : ¬ maxName < name.utf8ByteSize)
      (node : tree.node? (start ++ [name]) = some .directory)
      (leads : Leads tree (start ++ [name]) rest found) : Leads tree start (name :: rest) found
  | last {start : Location} {name : String} (down : name ≠ "..")
      (short : ¬ maxName < name.utf8ByteSize) :
      Leads tree start [name] (.standing (start ++ [name]) (tree.node? (start ++ [name])))

private theorem Leads.of_walk (walks : tree.walk start names = .ok found) :
    Leads tree start names found := by
  induction names generalizing start with
  | nil =>
    cases walks
    exact .here start
  | cons name rest ih =>
    have ends {place : Place} {cause : FileCause}
        (same : (if rest.isEmpty then Except.ok place else .error cause) = .ok found) :
          rest = [] ∧ place = found := by
      cases rest with
      | nil => exact ⟨rfl, Except.ok.inj same⟩
      | cons _ _ => cases same
    rw [FileTree.walk] at walks
    by_cases up : name = ".."
    · rw [if_pos up] at walks
      subst up
      exact .up (ih walks)
    · rw [if_neg up] at walks
      by_cases long : maxName < name.utf8ByteSize
      · rw [if_pos long] at walks
        cases walks
      · rw [if_neg long] at walks
        have stands : Leads tree start [name]
            (.standing (start ++ [name]) (tree.node? (start ++ [name]))) :=
          .last up long
        cases node : tree.node? (start ++ [name]) with
        | none =>
          simp only [node] at walks stands
          obtain ⟨rfl, rfl⟩ := ends walks
          exact stands
        | some other =>
          simp only [node] at walks stands
          cases other with
          | directory => exact .into up long node (ih walks)
          | file content mode =>
            obtain ⟨rfl, rfl⟩ := ends walks
            exact stands
          | device =>
            obtain ⟨rfl, rfl⟩ := ends walks
            exact stands

private theorem Leads.walk_eq (leads : Leads tree start names found) :
    tree.walk start names = .ok found := by
  induction leads with
  | here start => rfl
  | up leads ih =>
    rw [FileTree.walk, if_pos rfl]
    exact ih
  | into down short node leads ih =>
    rw [FileTree.walk, if_neg down, if_neg short]
    simp only [node]
    exact ih
  | @last start name down short =>
    rw [FileTree.walk, if_neg down, if_neg short]
    cases node : tree.node? (start ++ [name]) with
    | none =>
      simp only [node]
      rfl
    | some other =>
      simp only [node]
      cases other <;> rfl

/-- The location of a file, or of what could become one. -/
def Place.slot? : Place → Option Location
  | .file location _ _ => some location
  | .vacant location => some location
  | _ => none

/-- The location of anything but a directory. -/
def Place.leaf? : Place → Option Location
  | .directory _ => none
  | .file location _ _ => some location
  | .device location => some location
  | .vacant location => some location

theorem Place.leaf?_of_slot? (slot : found.slot? = some location) :
    found.leaf? = some location := by
  cases found with
  | file other content mode => exact slot
  | vacant other => exact slot
  | directory other => cases slot
  | device other => cases slot

theorem Place.standing_leaf? {node : Option FileNode}
    (leaf : (Place.standing other node).leaf? = some location) :
    other = location ∧ node ≠ some .directory := by
  cases node with
  | none => exact ⟨Option.some.inj leaf, nofun⟩
  | some node =>
    cases node with
    | file content mode => exact ⟨Option.some.inj leaf, nofun⟩
    | directory => cases leaf
    | device => exact ⟨Option.some.inj leaf, nofun⟩

theorem Leads.leaf (leads : Leads tree start names found) (leaf : found.leaf? = some location) :
    location ≠ [] ∧ tree.node? location ≠ some .directory ∧
      found = .standing location (tree.node? location) := by
  induction leads with
  | here start => cases leaf
  | up leads ih => exact ih leaf
  | into down short node leads ih => exact ih leaf
  | last down short =>
    obtain ⟨rfl, noDirectory⟩ := Place.standing_leaf? leaf
    exact ⟨List.concat_ne_nil _ _, noDirectory, rfl⟩

/-- Names that lead to where a file can be lead to the file that is put there. -/
theorem Leads.put (leads : Leads tree start names found) (slot : found.slot? = some location) :
    Leads (tree.put location (.file content mode)) start names (.file location content mode) := by
  have keeps := (leads.leaf (Place.leaf?_of_slot? slot)).2.1
  induction leads with
  | here start => cases slot
  | up leads ih => exact .up (ih slot)
  | @into start name rest found down short node leads ih =>
    -- The way goes through directories only, so it does not pass the file.
    have apart : start ++ [name] ≠ location := fun same => keeps (same ▸ node)
    exact .into down short ((node?_put_other apart _).trans node) (ih slot)
  | @last start name down short =>
    obtain ⟨rfl, -⟩ := Place.standing_leaf? (Place.leaf?_of_slot? slot)
    have stands : Leads (tree.put (start ++ [name]) (.file content mode)) start [name]
        (.standing (start ++ [name])
        ((tree.put (start ++ [name]) (.file content mode)).node? (start ++ [name]))) :=
          .last down short
    rw [node?_put_same (List.concat_ne_nil _ _)] at stands
    exact stands

/-! ### Paths -/

theorem place_eq_ok :
    tree.place path = .ok found ↔
      (¬ path.toText.toList.contains '\x00' = true ∧ ¬ maxPath < path.toText.utf8ByteSize) ∧
        Leads tree (if path.root = "" then tree.workingDir else []) path.names found := by
  unfold place
  by_cases null : path.toText.toList.contains '\x00' = true
  · rw [if_pos null]
    exact ⟨nofun, fun ⟨⟨plain, _⟩, _⟩ => absurd null plain⟩
  · rw [if_neg null]
    by_cases long : maxPath < path.toText.utf8ByteSize
    · rw [if_pos long]
      exact ⟨nofun, fun ⟨⟨_, short⟩, _⟩ => absurd long short⟩
    · rw [if_neg long]
      exact ⟨fun walks => ⟨⟨null, long⟩, .of_walk walks⟩, fun ⟨_, leads⟩ => leads.walk_eq⟩

theorem place_leaf (leads : tree.place path = .ok found) (leaf : found.leaf? = some location) :
    location ≠ [] ∧ tree.node? location ≠ some .directory ∧
      found = .standing location (tree.node? location) :=
  (place_eq_ok.mp leads).2.leaf leaf

private theorem place_vacant (leads : tree.place path = .ok (.vacant location)) :
    tree.node? location = none := by
  obtain ⟨-, -, same⟩ := place_leaf leads rfl
  cases node : tree.node? location with
  | none => rfl
  | some other =>
    rw [node] at same
    cases other <;> cases same

theorem place_device (leads : tree.place path = .ok (.device location)) :
    tree.node? location = some .device := by
  obtain ⟨-, -, same⟩ := place_leaf leads rfl
  cases node : tree.node? location with
  | none =>
    rw [node] at same
    cases same
  | some other =>
    rw [node] at same
    cases other with
    | device => rfl
    | directory => cases same
    | file content mode => cases same

/-- A path that leads to where a file can be leads to the file that is put there. -/
theorem place_put (leads : tree.place path = .ok found) (slot : found.slot? = some location) :
    (tree.put location (.file content mode)).place path = .ok (.file location content mode) := by
  obtain ⟨plain, leads⟩ := place_eq_ok.mp leads
  exact place_eq_ok.mpr ⟨plain, leads.put slot⟩

/-- What is written is kept where the path leads, unless a device stands there. -/
theorem write_eq_ok (written : tree.write path content mode = .ok last) :
    (∃ location, tree.place path = .ok (.device location) ∧ last = tree) ∨
      ∃ location found, tree.place path = .ok found ∧ found.slot? = some location ∧
        last = tree.put location (.file content mode) := by
  unfold write at written
  split at written
  · rename_i location _ _ leads
    cases written
    exact .inr ⟨location, _, leads, rfl, rfl⟩
  · rename_i location leads
    cases written
    exact .inr ⟨location, _, leads, rfl, rfl⟩
  · rename_i location leads
    cases written
    exact .inl ⟨location, leads, rfl⟩
  · cases written
  · cases written

/-! ### Trees with a root -/

/-- Everything stands in a directory, and paths without a root start in one. -/
structure Rooted (tree : FileTree) : Prop where
  start : tree.node? tree.workingDir = some .directory
  around : ∀ {location node}, tree.node? location = some node →
    tree.node? location.dropLast = some .directory

/-- A tree has a root if its nodes stand in directories one by one. -/
theorem Rooted.of_nodes (start : tree.node? tree.workingDir = some .directory)
    (around : ∀ entry ∈ tree.nodes, tree.node? entry.1.dropLast = some .directory) :
    tree.Rooted := by
  refine ⟨start, ?_⟩
  intro location node stands
  by_cases root : location = []
  · subst root
    rfl
  · rw [node?, if_neg root] at stands
    have listed : ∀ nodes : List (Location × FileNode), nodes.lookup location = some node →
        (location, node) ∈ nodes := by
      intro nodes found
      induction nodes with
      | nil => cases found
      | cons entry rest ih =>
        rw [List.lookup_cons] at found
        by_cases same : location = entry.1
        · rw [beq_iff_eq.mpr same] at found
          cases found
          exact same ▸ List.mem_cons_self
        · rw [beq_false_of_ne same] at found
          exact List.mem_cons_of_mem _ (ih found)
    exact around _ (listed _ stands)

/-- Whatever stands somewhere stands in directories all the way from the root. -/
theorem Rooted.front (rooted : tree.Rooted) {front back : Location} {node : FileNode}
    (more : back ≠ []) (stands : tree.node? (front ++ back) = some node) :
    tree.node? front = some .directory := by
  induction back using List.reverseRecOn generalizing node with
  | nil => exact absurd rfl more
  | append_singleton back name ih =>
    have around := rooted.around stands
    rw [← List.append_assoc, List.dropLast_concat] at around
    cases back with
    | nil => rwa [List.append_nil] at around
    | cons first rest => exact ih (List.cons_ne_nil _ _) around

/-- What is put in a directory, and not in place of one, leaves the tree with a root. -/
theorem Rooted.put (rooted : tree.Rooted) (around : tree.node? location.dropLast = some .directory)
    (leaf : tree.node? location ≠ some .directory) (node : FileNode) :
    (tree.put location node).Rooted := by
  have kept {other : Location} (directory : tree.node? other = some .directory) :
      (tree.put location node).node? other = some .directory := by
    rw [node?_put_other]
    · exact directory
    · rintro rfl
      exact leaf directory
  refine ⟨kept rooted.start, ?_⟩
  intro other found stands
  by_cases same : other = location
  · subst same
    exact kept around
  · rw [node?_put_other same] at stands
    exact kept (rooted.around stands)

theorem Leads.around (leads : Leads tree start names found) (rooted : tree.Rooted)
    (directory : tree.node? start = some .directory) (leaf : found.leaf? = some location) :
    tree.node? location.dropLast = some .directory := by
  induction leads with
  | here start => cases leaf
  | up leads ih => exact ih (rooted.around directory) leaf
  | into down short node leads ih => exact ih node leaf
  | last down short =>
    obtain ⟨rfl, -⟩ := Place.standing_leaf? leaf
    rw [List.dropLast_concat]
    exact directory

theorem place_around (rooted : tree.Rooted) (leads : tree.place path = .ok found)
    (leaf : found.leaf? = some location) : tree.node? location.dropLast = some .directory := by
  refine (place_eq_ok.mp leads).2.around rooted ?_ leaf
  split
  · exact rooted.start
  · rfl

/-- Names without steps upwards that lead to a location in one tree lead there in another one
too, if something stands there. -/
theorem Leads.of_standing (leads : Leads ready start names found)
    (leaf : found.leaf? = some location) (down : ".." ∉ names) (rooted : tree.Rooted)
    {node : FileNode} (stands : tree.node? location = some node) :
    location = start ++ names ∧ Leads tree start names (.standing location (some node)) := by
  induction leads with
  | here start => cases leaf
  | up leads ih => exact absurd List.mem_cons_self down
  | @into start name rest found apart short _ leads ih =>
    obtain ⟨same, leads'⟩ := ih leaf (fun listed => down (List.mem_cons_of_mem _ listed))
    have further : rest ≠ [] := by
      rintro rfl
      cases leads
      cases leaf
    have directory := rooted.front further (same ▸ stands)
    exact ⟨by rw [same, List.append_assoc,
      List.singleton_append], .into apart short directory leads'⟩
  | @last start name apart short =>
    obtain ⟨rfl, -⟩ := Place.standing_leaf? leaf
    exact ⟨rfl, stands ▸ .last apart short⟩

/-! ### Directories -/

/-- What stands at a location stays there, or becomes a directory where nothing stood. -/
def Grows (before after : Option FileNode) : Prop :=
  after = before ∨ before = none ∧ after = some .directory

theorem Grows.trans {before between after : Option FileNode} (first : Grows before between)
    (second : Grows between after) : Grows before after := by
  rcases second with rfl | ⟨vacant, made⟩
  · exact first
  · rcases first with rfl | ⟨_, stands⟩
    · exact .inr ⟨vacant, made⟩
    · rw [stands] at vacant
      cases vacant

/-- The same tree, or one with more directories, which stand where nothing stood. -/
structure Extends (tree ready : FileTree) : Prop where
  start : ready.workingDir = tree.workingDir
  grows : ∀ location, Grows (tree.node? location) (ready.node? location)
  rooted : tree.Rooted → ready.Rooted

theorem Extends.refl (tree : FileTree) : tree.Extends tree := ⟨rfl, fun _ => .inl rfl, id⟩

theorem Extends.trans (first : tree.Extends ready) (second : ready.Extends last) :
    tree.Extends last :=
  ⟨second.start.trans first.start, fun location => (first.grows location).trans
    (second.grows location),
    fun rooted => second.rooted (first.rooted rooted)⟩

theorem Extends.put (vacant : tree.place path = .ok (.vacant location)) :
    tree.Extends (tree.put location .directory) := by
  obtain ⟨apart, leaf, -⟩ := place_leaf vacant rfl
  refine ⟨rfl, ?_, fun rooted => rooted.put (place_around rooted vacant rfl) leaf _⟩
  intro other
  by_cases same : other = location
  · subst same
    exact .inr ⟨place_vacant vacant, node?_put_same apart _⟩
  · exact .inl (node?_put_other same _)

theorem makeDirectory_extends (made : tree.makeDirectory path = .ok ready) :
    tree.Extends ready := by
  unfold makeDirectory at made
  split at made
  · cases made
    exact .refl tree
  · rename_i location leads
    cases made
    exact .put leads
  · cases made
  · cases made
  · cases made

theorem makeStages_extends (path : Path) (count : Nat) (tree : FileTree) :
    tree.Extends (makeStages path count tree).2 := by
  induction count generalizing tree with
  | zero => exact .refl tree
  | succ count ih =>
    have around := ih tree
    unfold makeStages
    simp only
    split
    · exact makeDirectory_extends ‹_›
    · split
      · exact .refl tree
      · split
        · rename_i same
          rw [same] at around
          exact around
        · rename_i same
          rw [same] at around
          split
          · exact around.trans (makeDirectory_extends ‹_›)
          · exact around

section Absent

variable (extended : tree.Extends ready) (rooted : tree.Rooted) (down : ".." ∉ path.names)
  (absent : tree.exists? path = .ok false)
include extended rooted down absent

/-- Where a path without steps upwards comes to lead, nothing stood as long as it led nowhere. -/
theorem vacant_of_absent (leads : ready.place path = .ok found)
    (leaf : found.leaf? = some location) :
    tree.node? location = none := by
  cases stands : tree.node? location with
  | none => rfl
  | some node =>
    obtain ⟨plain, leads⟩ := place_eq_ok.mp leads
    rw [extended.start] at leads
    have led := place_eq_ok.mpr ⟨plain, (leads.of_standing leaf down rooted stands).2⟩
    rw [exists?, led] at absent
    cases node <;> cases absent

/-- Such a path does not come to lead to a device. -/
theorem place_ne_device (location : Location) : ready.place path ≠ .ok (.device location) := by
  intro leads
  have vacant := vacant_of_absent extended rooted down absent leads rfl
  rcases extended.grows location with same | ⟨-, directory⟩
  · rw [place_device leads, vacant] at same
    cases same
  · rw [place_device leads] at directory
    cases directory

end Absent

end SignerPlugin.FileTree
