import SignerPlugin.KeyResource
import SignerPlugin.Proofs.PathText

/-! Which program serves a key. Its name is made of a setting and of the scheme in front of
the key, and of the two only the setting is known to stay within one name. -/

namespace SignerPlugin

/-! ### The scheme of a key -/

section SplitAt

variable {mark text before after : List Char}

private theorem splitAt?_eq_none (missed : splitAt? mark text = none) (other rest : List Char) :
    text ≠ other ++ mark ++ rest := by
  induction text generalizing other with
  | nil =>
    intro same
    have unmarked : mark = [] :=
      (List.append_eq_nil_iff.mp (List.append_eq_nil_iff.mp same.symm).1).2
    simp [splitAt?, unmarked] at missed
  | cons c letters ih =>
    intro same
    rw [splitAt?] at missed
    split at missed
    · cases missed
    · rename_i behind
      cases other with
      | nil => exact behind (List.isPrefixOf_iff_prefix.mpr ⟨rest, same.symm⟩)
      | cons first others =>
        have missed := Option.map_eq_none_iff.mp missed
        exact ih missed others (List.cons.inj same).2

theorem splitAt?_sound (found : splitAt? mark text = some (before, after)) :
    text = before ++ mark ++ after ∧
      ∀ other rest, text = other ++ mark ++ rest → before.length ≤ other.length := by
  induction text generalizing before with
  | nil =>
    rw [splitAt?] at found
    split at found
    · rename_i unmarked
      cases found
      exact ⟨by simpa using unmarked, fun _ _ _ => Nat.zero_le _⟩
    · cases found
  | cons c letters ih =>
    rw [splitAt?] at found
    split at found
    · rename_i front
      cases found
      obtain ⟨rest, same⟩ := List.isPrefixOf_iff_prefix.mp front
      exact ⟨by simp [← same], fun _ _ _ => Nat.zero_le _⟩
    · rename_i behind
      obtain ⟨⟨inner, last⟩, found, same⟩ := Option.map_eq_some_iff.mp found
      cases same
      obtain ⟨parts, first⟩ := ih found
      refine ⟨by simp [parts], fun other rest same => ?_⟩
      cases other with
      | nil => exact absurd (List.isPrefixOf_iff_prefix.mpr ⟨rest, same.symm⟩) behind
      | cons _ others => exact Nat.succ_le_succ (first others rest (List.cons.inj same).2)

/-- A text is taken apart at the first place where the mark stands. -/
theorem splitAt?_eq_some : splitAt? mark text = some (before, after) ↔
    text = before ++ mark ++ after ∧
    ∀ other rest, text = other ++ mark ++ rest → before.length ≤ other.length := by
  refine ⟨splitAt?_sound, fun ⟨parts, first⟩ => ?_⟩
  cases found : splitAt? mark text with
  | none => exact absurd parts (splitAt?_eq_none found before after)
  | some pair =>
    obtain ⟨found_parts, found_first⟩ := splitAt?_sound found
    have even := Nat.le_antisymm (found_first _ _ parts) (first _ _ found_parts)
    rw [parts, List.append_assoc, List.append_assoc] at found_parts
    obtain ⟨rfl, rest⟩ := List.append_inj found_parts even.symm
    rw [List.append_cancel_left rest]

end SplitAt

namespace KeyResource

/-- A text that names a resource: its scheme up to the first mark, and its key behind that. -/
structure Named (resource : KeyResource) (text : String) : Prop where
  parts : text = resource.scheme ++ mark ++ resource.key
  first : ∀ before after, text = before ++ mark ++ after → resource.scheme.length ≤ before.length

theorem ofText?_eq_some {text : String} {resource : KeyResource} :
    ofText? text = some resource ↔ resource.Named text := by
  have joined (before after : String) : text = before ++ mark ++ after ↔
      text.toList = before.toList ++ mark.toList ++ after.toList := by
    rw [← String.toList_inj, String.toList_append, String.toList_append]
  obtain ⟨scheme, key⟩ := resource
  constructor
  · intro found
    obtain ⟨⟨before, after⟩, split, same⟩ := Option.map_eq_some_iff.mp found
    cases same
    obtain ⟨parts, first⟩ := splitAt?_eq_some.mp split
    refine ⟨(joined _ _).mpr (by simpa using parts), fun other rest same => ?_⟩
    have short := first _ _ ((joined _ _).mp same)
    rw [String.length_toList] at short
    rwa [String.length_ofList]
  · rintro ⟨parts, first⟩
    have split : splitAt? mark.toList text.toList = some (scheme.toList, key.toList) := by
      refine splitAt?_eq_some.mpr ⟨(joined _ _).mp parts, fun other rest same => ?_⟩
      have short :=
        first (String.ofList other) (String.ofList rest) ((joined _ _).mpr (by simpa using same))
      rwa [String.length_ofList, ← String.length_toList] at short
    simp [ofText?, split]

end KeyResource

namespace ClientSetup

variable {text : String} {hash : Option HashFunc.Selector}
  {settings : Except ConfigFault ClientConfig} {setup : ClientSetup} {config : ClientConfig}
  {scheme : String}

theorem ofResource_named {resource : KeyResource} (named : resource.Named text)
    (apart : resource.scheme ≠ "") :
    ofResource text hash settings = do
      let config ← settings.mapError .config
      let hashFunc ← ((hash.map HashFunc.select).getD (.ok config.hashFunc)).mapError .hash
      return ⟨⟨program config resource.scheme, { keyResourceId := text, hashFunc }⟩,
        config.forwardStderr,
        config.logLevel⟩ := by
  simp only [ofResource, KeyResource.ofText?_eq_some.mpr named, apart, if_false]
  cases hash with
  | none => rfl
  | some selector => rfl

/-- Without a choice of its own a client has everything from its settings. -/
theorem ofResource_settings {resource : KeyResource} (named : resource.Named text)
    (apart : resource.scheme ≠ "") :
    ofResource text none (.ok config) = .ok ⟨⟨program config resource.scheme,
      { keyResourceId := text, hashFunc := config.hashFunc }⟩, config.forwardStderr,
        config.logLevel⟩ :=
  ofResource_named named apart

private theorem ofResource_unnamed
    (unnamed : ¬ ∃ resource : KeyResource, resource.Named text ∧ resource.scheme ≠ "") :
    ofResource text hash settings = .error (.badResource text) := by
  unfold ofResource
  cases found : KeyResource.ofText? text with
  | none => rfl
  | some resource =>
    have empty : resource.scheme = "" := Decidable.byContradiction fun apart =>
      unnamed ⟨resource, KeyResource.ofText?_eq_some.mp found, apart⟩
    simp only [empty, if_true]
    rfl

/-- The texts that a client is set up for, and the program that it runs. -/
theorem program_of_ofResource (made : ofResource text hash settings = .ok setup) :
    ∃ (resource : KeyResource) (config : ClientConfig), resource.Named text ∧ resource.scheme ≠ "" ∧
      settings = .ok config ∧ setup.client.plugin = program config resource.scheme := by
  by_cases named : ∃ resource : KeyResource, resource.Named text ∧ resource.scheme ≠ ""
  · obtain ⟨resource, named, apart⟩ := named
    rw [ofResource_named named apart] at made
    cases settings with
    | error fault => cases made
    | ok config =>
      refine ⟨resource, config, named, apart, rfl, ?_⟩
      change ((Option.map HashFunc.select hash).getD (.ok config.hashFunc)).mapError
        Fault.hash >>= _ = _ at made
      cases chosen : (Option.map HashFunc.select hash).getD (.ok config.hashFunc) with
      | error fault =>
        rw [chosen] at made
        cases made
      | ok hashFunc =>
        rw [chosen] at made
        cases made
        rfl
  · rw [ofResource_unnamed named] at made
    cases made

/-! ### The place of a program -/

/-- The directory of plugins; without one this is the empty text. -/
def directory (config : ClientConfig) : String := config.pluginDir.getD ""

/-- The name of the program of a scheme. -/
def programName (config : ClientConfig) (scheme : String) : String :=
  config.programPrefix.text ++ scheme

theorem program_eq (config : ClientConfig) (scheme : String) : program config scheme =
    if directory config = "" then programName config scheme
    else ((Path.ofText (directory config)).join
      (Path.ofText (programName config scheme))).toText := by
  unfold program directory
  cases config.pluginDir with
  | none => rfl
  | some dir => rfl

/-- The program of a scheme is confined: it is a plain name to be looked up, or if there is a
directory of plugins, a child of this directory. In both cases its name is that of the setting
with the scheme. -/
structure Confined (config : ClientConfig) (scheme plugin : String) : Prop where
  searched : directory config = "" → plugin = programName config scheme ∧ '/' ∉ plugin.toList
  inside : directory config ≠ "" → (Path.ofText plugin).parent = Path.ofText (directory config) ∧
    (Path.ofText plugin).name = programName config scheme ∧
    programName config scheme ≠ "." ∧ programName config scheme ≠ ".."

theorem slash_mem_programName : '/' ∈ (programName config scheme).toList ↔ '/' ∈ scheme.toList := by
  simp [programName, config.programPrefix.isFragment.2]

theorem programName_ne_empty : programName config scheme ≠ "" := by
  simp [programName, config.programPrefix.isFragment.1]

/-- Neither part of the name is empty, so there is more to it than a dot. -/
theorem programName_ne_dot (apart : scheme ≠ "") : programName config scheme ≠ "." := by
  intro same
  have letters : config.programPrefix.text.toList ++ scheme.toList = ['.'] := by
    rw [← String.toList_append]
    exact congrArg String.toList same
  rcases List.append_eq_singleton_iff.mp letters with ⟨none, -⟩ | ⟨-, none⟩
  · exact config.programPrefix.isFragment.1 (String.toList_eq_nil_iff.mp none)
  · exact apart (String.toList_eq_nil_iff.mp none)

/-- With a scheme that has no slashes the name is one step. -/
theorem isStep_programName (apart : scheme ≠ "") (plain : '/' ∉ scheme.toList) :
    Path.IsStep (programName config scheme) :=
  ⟨programName_ne_empty, programName_ne_dot apart,
    fun slash => plain (slash_mem_programName.mp slash)⟩

theorem isNormal_place (config : ClientConfig) (scheme : String) :
    ((Path.ofText (directory config)).join (Path.ofText (programName config scheme))).IsNormal :=
  (Path.isNormal_ofText _).join (Path.isNormal_ofText _)

/-- No name starts at a root, for it starts with the setting. -/
private theorem programName_root (config : ClientConfig) (scheme : String) :
    (Path.ofText (programName config scheme)).root = "" := by
  have ⟨word, plain⟩ := config.programPrefix.isFragment
  cases letters : config.programPrefix.text.toList with
  | nil => exact absurd (String.toList_eq_nil_iff.mp letters) word
  | cons c rest =>
    rw [letters] at plain
    have apart : c ≠ '/' := fun same => plain (same ▸ List.mem_cons_self)
    simp [Path.ofText, programName, letters, apart, Path.rootOf]

/-- Under a directory of plugins a program is found by following the parts of its name from
there. -/
theorem ofText_program (given : directory config ≠ "") : Path.ofText (program config scheme) =
    ⟨(Path.ofText (directory config)).root,
      (Path.ofText (directory config)).names ++
        (Path.ofText (programName config scheme)).names⟩ := by
  rw [program_eq, if_neg given, (isNormal_place config scheme).ofText_toText, Path.join,
    if_pos (programName_root _ _)]

/-- With a scheme that has no slashes it is a child of this directory. -/
theorem ofText_program_plain (given : directory config ≠ "") (apart : scheme ≠ "")
    (plain : '/' ∉ scheme.toList) :
    Path.ofText (program config scheme) = (Path.ofText (directory config)).child
      (programName config scheme) := by
  rw [ofText_program given, Path.ofText_step (isStep_programName apart plain)]
  rfl

/-- Programs are confined for just the schemes that stay within one name and make no step
upwards. -/
theorem confined_program_iff (apart : scheme ≠ "") :
    Confined config scheme (program config scheme) ↔
    '/' ∉ scheme.toList ∧ (directory config ≠ "" → programName config scheme ≠ "..") := by
  by_cases given : directory config = ""
  · have looked : program config scheme = programName config scheme := by
      rw [program_eq, if_pos given]
    constructor
    · intro confined
      have plain := (confined.searched given).2
      rw [looked, slash_mem_programName] at plain
      exact ⟨plain, fun other => absurd given other⟩
    · rintro ⟨plain, -⟩
      refine ⟨fun _ => ⟨looked, ?_⟩, fun other => absurd given other⟩
      rw [looked, slash_mem_programName]
      exact plain
  · constructor
    · intro confined
      obtain ⟨-, last, -, down⟩ := confined.inside given
      refine ⟨fun slash => ?_, fun _ => down⟩
      -- The name is the last one of a path, and no slash stands in those.
      have listed : programName config scheme ∈ (Path.ofText (program config scheme)).names := by
        rw [← last, Path.name]
        cases found : (Path.ofText (program config scheme)).names.getLast? with
        | none =>
          rw [Path.name, found] at last
          exact absurd last.symm programName_ne_empty
        | some name => exact List.mem_of_getLast? found
      exact ((Path.isNormal_ofText _).names _ listed).plain (slash_mem_programName.mpr slash)
    · rintro ⟨plain, down⟩
      refine ⟨fun other => absurd other given, fun _ => ?_⟩
      rw [ofText_program_plain given apart plain]
      exact ⟨Path.child_parent _ _, Path.child_name _ _, programName_ne_dot apart, down given⟩

/-- Wherever the files are, a confined program is what stands under its name in the directory
of plugins. -/
theorem Confined.place (confined : Confined config scheme (program config scheme))
    (apart : scheme ≠ "") (given : directory config ≠ "") {tree : FileTree}
    {found : FileTree.Place}
    (leads : tree.place (Path.ofText (program config scheme)) = .ok found) :
    ∃ location, tree.place (Path.ofText (directory config)) = .ok (.directory location) ∧
      found = .standing (location ++ [programName config scheme])
        (tree.node? (location ++ [programName config scheme])) := by
  obtain ⟨plain, down⟩ := (confined_program_iff apart).mp confined
  rw [ofText_program_plain given apart plain] at leads
  exact FileTree.place_child (Path.isNormal_ofText _) programName_ne_empty (down given) leads

/-- When the directory of plugins is the working directory, the text of a confined program is
a mere name. -/
theorem Confined.slash_mem_iff (confined : Confined config scheme (program config scheme))
    (apart : scheme ≠ "") (given : directory config ≠ "") :
    '/' ∈ (program config scheme).toList ↔ Path.ofText (directory config) ≠ ⟨"", []⟩ := by
  obtain ⟨plain, -⟩ := (confined_program_iff apart).mp confined
  have written : program config scheme =
      ((Path.ofText (directory config)).child (programName config scheme)).toText := by
    rw [← ofText_program_plain given apart plain, program_eq, if_neg given,
      (isNormal_place config scheme).ofText_toText]
  rw [written]
  exact Path.slash_mem_toText_child (Path.isNormal_ofText _) (isStep_programName apart plain)

/-- Where the program is that a client runs for a key. It is confined for just the schemes
that stay within one name and make no step upwards; the other schemes, too, are followed from
the directory of plugins. -/
theorem plugin_placed (made : ofResource text hash settings = .ok setup) :
    ∃ (resource : KeyResource) (config : ClientConfig), resource.Named text ∧ resource.scheme ≠ "" ∧
      settings = .ok config ∧
      (Confined config resource.scheme setup.client.plugin ↔
        '/' ∉ resource.scheme.toList ∧
          (directory config ≠ "" → programName config resource.scheme ≠ "..")) ∧
      (directory config = "" → setup.client.plugin = programName config resource.scheme) ∧
      (directory config ≠ "" →
        Path.ofText setup.client.plugin =
        ⟨(Path.ofText (directory config)).root, (Path.ofText (directory config)).names ++
        (Path.ofText (programName config resource.scheme)).names⟩) ∧
      (Confined config resource.scheme setup.client.plugin → directory config ≠ "" →
        ('/' ∈ setup.client.plugin.toList ↔ Path.ofText (directory config) ≠ ⟨"", []⟩) ∧
        ∀ (tree : FileTree) (found : FileTree.Place), tree.place
          (Path.ofText setup.client.plugin) = .ok found →
          ∃ location, tree.place (Path.ofText (directory config)) = .ok (.directory location) ∧
            found = .standing (location ++ [programName config resource.scheme])
              (tree.node? (location ++ [programName config resource.scheme]))) := by
  obtain ⟨resource, config, named, apart, given, same⟩ := program_of_ofResource made
  refine ⟨resource, config, named, apart, given, ?_⟩
  rw [same]
  refine ⟨confined_program_iff apart, fun none => ?_, ofText_program,
    fun confined some => ⟨?_, fun tree found leads => ?_⟩⟩
  · rw [program_eq, if_pos none]
  · exact confined.slash_mem_iff apart some
  · exact confined.place apart some leads

theorem plugin_placed_vault :
    let config : ClientConfig :=
      { programPrefix := ⟨"kms-", by decide⟩, pluginDir := some "/opt/plugins" }
    ∃ setup, ofResource "vault://transit/key" none (.ok config) = .ok setup ∧
      setup.client.plugin = "/opt/plugins/kms-vault" ∧
        Confined config "vault" setup.client.plugin := by
  intro config
  have vault : KeyResource.ofText? "vault://transit/key" = some ⟨"vault", "transit/key"⟩ := by
    decide +kernel
  have made : ofResource "vault://transit/key" none (.ok config) = _ :=
    ofResource_settings (KeyResource.ofText?_eq_some.mp vault) (by decide)
  refine ⟨_, made, by decide +kernel, ?_⟩
  obtain ⟨resource, found, named, _, same, confined, _⟩ := plugin_placed made
  cases same
  cases (KeyResource.ofText?_eq_some.mpr named).symm.trans vault
  exact confined.mpr ⟨by decide, fun _ => by decide⟩

/-- A scheme with slashes leads out of the directory of plugins, or past the search path if
there is none. -/
theorem plugin_displaced :
    let tree : FileTree := { nodes := [(["opt"], .directory), (["opt", "plugins"], .directory),
      (["opt", "plugins", "sigstore-kms-x"], .directory), (["bin"], .directory),
        (["bin", "sh"], .file [] 493)] }
    (∃ setup, ofResource "x/../../../bin/sh://key" none
      (.ok { pluginDir := some "/opt/plugins" }) = .ok setup ∧
      ¬ Confined { pluginDir := some "/opt/plugins" } "x/../../../bin/sh" setup.client.plugin ∧
      tree.place (Path.ofText setup.client.plugin) = .ok (.file ["bin", "sh"] [] 493)) ∧
    ∃ setup, ofResource "a/b://key" none (.ok {}) = .ok setup ∧
      setup.client.plugin = "sigstore-kms-a/b" ∧
      ¬ Confined {} "a/b" setup.client.plugin := by
  intro tree
  have far : KeyResource.ofText? "x/../../../bin/sh://key" =
      some ⟨"x/../../../bin/sh", "key"⟩ := by decide +kernel
  have near : KeyResource.ofText? "a/b://key" = some ⟨"a/b", "key"⟩ := by decide +kernel
  refine ⟨⟨_, ofResource_settings (KeyResource.ofText?_eq_some.mp far) (by decide),
    fun confined => ?_, ?_⟩,
    _, ofResource_settings (KeyResource.ofText?_eq_some.mp near)
      (by decide), by decide +kernel, fun confined => ?_⟩
  · exact absurd ((confined_program_iff (by decide)).mp confined).1 (by decide)
  · have followed : Path.ofText (program { pluginDir := some "/opt/plugins" } "x/../../../bin/sh") =
        ⟨"/", ["opt", "plugins", "sigstore-kms-x", "..", "..", "..", "bin", "sh"]⟩ := by
          decide +kernel
    rw [followed]
    rfl
  · exact absurd ((confined_program_iff (by decide)).mp confined).1 (by decide)

end ClientSetup
end SignerPlugin
