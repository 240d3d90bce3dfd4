import SignerPlugin.ConfigFile
import SignerPlugin.Proofs.CodecLaws
import SignerPlugin.Proofs.TreeExpansion

/-! What becomes of a configuration file. It is read in five stages, each of which can fail in
ways of its own, but not every kind of failure is one that a check of the file answers no to:
the readers of the two languages and the replacement of references have kinds that leave the
check as well. -/

namespace SignerPlugin

open Config (Environment Tree)
open Schema (Checked)
open Text (CodeText)

/-! ### Settings -/

namespace ClientConfig

variable {α : Type} {entries : Tree.Entries} {tree : Tree} {name : String} {config : ClientConfig}

/-- What holds of all settings that can be made. -/
structure Sound (config : ClientConfig) : Prop where
  named : config.programPrefix.text ≠ ""
  single : '/' ∉ config.programPrefix.text.toList
  hash : config.hashFunc ∈ HashFunc.all
  level : ∀ level, config.logLevel = some level →
    level.name ∈ ["DEBUG", "INFO", "WARNING", "ERROR", "CRITICAL"]

/-- A setting says what a text under its name says, and is the standard one if there is
nothing under it. -/
structure Stated (entries : Tree.Entries) (name : String) (standard value : α)
    (Tells : CodeText → Prop) : Prop where
  given : ∀ text, Tree.find? entries name = some (.text text) → Tells text
  unset : Tree.find? entries name = none → value = standard

/-- Settings say what the texts in a mapping say. -/
structure States (entries : Tree.Entries) (config : ClientConfig) : Prop where
  start : Stated entries "executable_prefix" .standard config.programPrefix fun text =>
    config.programPrefix.text = text.shown
  directory : Stated entries "plugin_dir" none config.pluginDir fun text => config.pluginDir =
    some text.shown
  hash : Stated entries "hash_func" .sha256 config.hashFunc fun text =>
    ∃ word, text.string? = some word ∧
    config.hashFunc.name = (Text.capitals word).map fun c => if c = '-' then '_' else c
  level : Stated entries "log_level" none config.logLevel fun text =>
    ∃ word level, text.string? = some word ∧
    config.logLevel = some level ∧ level.name = Text.capitals word

theorem verdict_eq_ok {outcome : Except CodeText α} {value : α} :
    verdict outcome = .ok value ↔ outcome = .ok value := by
  cases outcome <;> simp [verdict, Checked.fail]

theorem setting_given {standard value : α} {read : Tree → Checked α}
    (given : Tree.find? entries name = some tree) :
    setting entries name standard read = .ok value ↔ read tree = .ok value := by
  rw [setting, given]
  exact Checked.within_eq_ok

theorem setting_unset {standard : α} {read : Tree → Checked α}
    (unset : Tree.find? entries name = none) :
    setting entries name standard read = .ok standard := by
  rw [setting, unset]

/-- Each setting is read by itself. -/
theorem ofEntries_eq_ok : ofEntries entries = .ok config ↔
    setting entries "executable_prefix" .standard readPrefix = .ok config.programPrefix ∧
    setting entries "plugin_dir" none readDirectory = .ok config.pluginDir ∧
    setting entries "hash_func" .sha256 readHash = .ok config.hashFunc ∧
    setting entries "forward_stderr" true readSwitch = .ok config.forwardStderr ∧
    setting entries "log_level" none readLevel = .ok config.logLevel := by
  simp only [ofEntries, Checked.both_eq_ok, Checked.map_eq_ok]
  constructor
  · rintro ⟨_, level, ⟨_, forward, ⟨_, hash, ⟨_, dir, ⟨start, starts, rfl⟩, dirs, rfl⟩, hashes,
      rfl⟩, forwards, rfl⟩, levels, rfl⟩
    exact ⟨starts, dirs, hashes, forwards, levels⟩
  · rintro ⟨starts, dirs, hashes, forwards, levels⟩
    exact ⟨_, _, ⟨_, _, ⟨_, _, ⟨_, _, ⟨_, starts, rfl⟩, dirs, rfl⟩, hashes, rfl⟩, forwards,
      rfl⟩, levels, rfl⟩

theorem ofTree_eq_ok : ofTree tree = .ok config ↔ ∃ entries, tree = .map entries ∧
    ofEntries entries = .ok config := by
  cases tree with
  | map entries =>
    simp only [ofTree, Tree.map.injEq, exists_eq_left']
    cases ofEntries entries <;> simp
  | _ => simp [ofTree, Checked.fail]

private theorem readPrefix_text {text : CodeText} {start : ProgramPrefix}
    (read : readPrefix (.text text) = .ok start) :
    start.text = text.shown := by
  obtain ⟨_, same, made⟩ := Checked.andThen_eq_ok.mp read
  cases same
  have made := verdict_eq_ok.mp made
  unfold ProgramPrefix.ofText at made
  split at made
  · cases made
    rfl
  · cases made

private theorem hashOfText_eq_ok {text : CodeText} {hash : HashFunc}
    (found : hashOfText text = .ok hash) : ∃ word, text.string? = some word ∧
      hash.name = (Text.capitals word).map fun c => if c = '-' then '_' else c := by
  unfold hashOfText at found
  simp only at found
  split at found
  · rename_i named
    cases found
    obtain ⟨_, shown, known⟩ := Option.bind_eq_some_iff.mp named
    obtain ⟨word, spelled, rfl⟩ := Option.map_eq_some_iff.mp shown
    exact ⟨word, spelled, by simpa using List.find?_some known⟩
  · cases found

theorem levelOfText_eq_ok {text : CodeText} {level : LogLevel}
    (found : levelOfText text = .ok level) :
    level ∈ levels ∧ ∃ word, text.string? = some word ∧ level.name = Text.capitals word := by
  unfold levelOfText at found
  split at found
  · rename_i among
    cases found
    exact ⟨List.mem_of_find?_eq_some
      among, by simpa [Option.any_eq_true] using List.find?_some among⟩
  · cases found

private theorem readLevel_eq_ok {level : Option LogLevel} (read : readLevel tree = .ok level) :
    level = none ∨ ∃ text chosen, levelOfText text = .ok chosen ∧ level = some chosen := by
  obtain ⟨text, -, made⟩ := Checked.andThen_eq_ok.mp read
  cases text with
  | none =>
    cases made
    exact .inl rfl
  | some text =>
    obtain ⟨chosen, found, same⟩ := Checked.map_eq_ok.mp made
    exact .inr ⟨text, chosen, verdict_eq_ok.mp found, same.symm⟩

private theorem name_of_mem_levels {level : LogLevel} (among : level ∈ levels) :
    level.name ∈ ["DEBUG", "INFO", "WARNING", "ERROR", "CRITICAL"] :=
  List.mem_map_of_mem among

private theorem sound_of_ofEntries (made : ofEntries entries = .ok config) : config.Sound := by
  obtain ⟨-, -, -, -, leveled⟩ := ofEntries_eq_ok.mp made
  refine ⟨config.programPrefix.isFragment.1, config.programPrefix.isFragment.2, ?hash, ?level⟩
  case hash => cases config.hashFunc <;> decide
  case level =>
    intro level chosen
    rw [chosen] at leveled
    cases given : Tree.find? entries "log_level" with
    | none =>
      rw [setting_unset given] at leveled
      cases leveled
    | some tree =>
      rcases readLevel_eq_ok ((setting_given given).mp leveled) with none | ⟨text, _, found, same⟩
      · cases none
      · cases same
        exact name_of_mem_levels (levelOfText_eq_ok found).1

theorem stated_of_setting {standard value : α} {read : Tree → Checked α} {Tells : CodeText → Prop}
    (made : setting entries name standard read = .ok value)
    (tells : ∀ text, read (.text text) = .ok value → Tells text) :
    Stated entries name standard value Tells where
  given text given := tells text ((setting_given given).mp made)
  unset unset := (Checked.ok.inj ((setting_unset unset).symm.trans made)).symm

private theorem states_of_ofEntries (made : ofEntries entries = .ok config) :
    config.States entries := by
  obtain ⟨started, placed, hashed, -, leveled⟩ := ofEntries_eq_ok.mp made
  refine ⟨stated_of_setting started ?start, stated_of_setting placed ?directory,
    stated_of_setting hashed ?hash, stated_of_setting leveled ?level⟩
  case start => exact fun text read => readPrefix_text read
  case directory => exact fun text read => (Checked.ok.inj read).symm
  case hash => exact fun text read => hashOfText_eq_ok (verdict_eq_ok.mp read)
  case level =>
    intro text read
    obtain ⟨level, made, same⟩ := Checked.map_eq_ok.mp read
    obtain ⟨-, word, spelled, named⟩ := levelOfText_eq_ok (verdict_eq_ok.mp made)
    exact ⟨word, level, spelled, same.symm, named⟩

end ClientConfig

/-! ### Kinds of failures -/

namespace ConfigFault

/-- The kinds of failures of the file system. -/
def systemKinds : List String :=
  ["OSError", "FileNotFoundError", "PermissionError", "FileExistsError", "NotADirectoryError",
    "IsADirectoryError"]

/-- The kinds of failures that lie in a value. -/
def valueKinds : List String := ["ValueError", "UnicodeDecodeError", "UnicodeEncodeError"]

/-- The other kinds of failures. -/
def escapingKinds : List String :=
  ["RecursionError", "IndexError", "TypeError", "OverflowError", "AttributeError", "KeyError"]

private theorem label_of_stop (cause : Json.Cause) :
    cause.label ∈ valueKinds ∨ cause.label ∈ escapingKinds := by
  cases cause <;> simp [Json.Cause.label, valueKinds, escapingKinds]

private theorem label_of_yaml (fault : Yaml.Fault) :
    fault.label ∈ valueKinds ∨ fault.label ∈ escapingKinds := by
  cases fault with
  | wideCharacter code =>
    by_cases wide : code < Yaml.maxCode <;> simp [Yaml.Fault.label, wide, valueKinds, escapingKinds]
  | _ => simp [Yaml.Fault.label, valueKinds, escapingKinds]

theorem label_of_file (cause : FileCause) :
    cause.label ∈ systemKinds ∨ cause.label ∈ valueKinds := by
  cases cause <;> simp [FileCause.label, systemKinds, valueKinds]

private theorem escapingKinds_apart : ∀ label ∈ escapingKinds, label ∉ systemKinds ∧
    label ∉ valueKinds := by
  decide

/-- A check answers no to a fault of the file system and to one that lies in a value, and only
to these. -/
theorem isRefusal_iff {fault : ConfigFault} :
    fault.isRefusal ↔ fault.label ∈ systemKinds ∨ fault.label ∈ valueKinds := by
  cases fault with
  | file fault => exact iff_of_true rfl (label_of_file fault.cause)
  | json path stop text =>
    obtain ⟨cause, rest⟩ := stop
    cases cause <;> simp [isRefusal, label, Json.Cause.isLocal, Json.Cause.label,
      systemKinds, valueKinds]
  | yaml path fault =>
    cases fault with
    | wideCharacter code =>
      by_cases wide : code < Yaml.maxCode <;>
        simp [isRefusal, label, Yaml.Fault.isRefusal, Yaml.Fault.label, wide,
          systemKinds, valueKinds]
    | _ => simp [isRefusal, label, Yaml.Fault.isRefusal, Yaml.Fault.label, systemKinds, valueKinds]
  | expansion fault =>
    cases fault <;> simp [isRefusal, label, Yaml.Fault.label, systemKinds, valueKinds]
  | _ => simp [isRefusal, label, FileCause.label, systemKinds, valueKinds]

end ConfigFault

/-! ### Files -/

namespace ConfigFile

open ConfigFault (systemKinds valueKinds escapingKinds)

variable {depths : Depths} {files : FileTree} {path : Path} {env : Environment}
  {content : Bytes} {fault : ConfigFault} {config : ClientConfig}

/-- The mapping that the content of a file stands for. -/
def given (depths : Depths) (path : Path) (content : Bytes) : Except ConfigFault Tree := do
  let text ← (Text.Utf8.decode content).mapError .notText
  let tree ← parse depths path (Text.unifyLines text.toList)
  mapping path tree

/-- The settings in a mapping, once its references are replaced. -/
def settle (depths : Depths) (path : Path) (env : Environment) (given : Tree) :
    Except ConfigFault ClientConfig := do
  let expanded ← (given.expandWithin env depths.tree).mapError .expansion
  (ClientConfig.ofTree expanded).mapError (faultOf path)

/-- How the content of a file stops a load with something else than a verdict on its values:
its text stops the reader in such a way, or containers in it stand too deep inside one another
for the references in it to be replaced. -/
inductive Breaks (depths : Depths) (path : Path) (env : Environment) (content : Bytes) :
    ConfigFault → Prop
  | reader {text : String} {fault : ConfigFault} (decoded : Text.Utf8.decode content = .ok text)
      (stopped : parse depths path (Text.unifyLines text.toList) = .error fault)
      (escapes : fault.label ∉ valueKinds) :
      Breaks depths path env content fault
  | depth {tree : Tree} (read : given depths path content = .ok tree)
      (deep : ¬ tree.Fits depths.tree) (stopped : tree.expandWithin env depths.tree =
      .error .tooDeep) : Breaks depths path env content (.expansion .tooDeep)

theorem file?_eq_error {fault : FileFault} (failed : files.file? path = .error fault) :
    fault.cause = .nameTooLong := by
  unfold FileTree.file? at failed
  split at failed <;> cases failed
  rfl

theorem load_missing (missing : files.file? path = .ok none) :
    load depths files path env = .error (.notFound path) := by
  rw [load, missing]

theorem load_unreachable {fault : FileFault} (failed : files.file? path = .error fault) :
    load depths files path env = .error (.file fault) := by
  rw [load, failed]

theorem load_file (found : files.file? path = .ok (some content)) :
    load depths files path env = given depths path content >>= settle depths path env := by
  simp only [load, found, given, bind_assoc]
  rfl

/-- Settings come from a file that has a text, in which there is a mapping that fits and has
all its references. -/
theorem load_eq_ok : load depths files path env = .ok config ↔ ∃ content tree entries,
    files.file? path = .ok (some content) ∧ given depths path content = .ok tree ∧
      tree.expandWithin env depths.tree = .ok (.map entries) ∧
      ClientConfig.ofEntries entries = .ok config := by
  constructor
  · intro loaded
    cases found : files.file? path with
    | error fault =>
      rw [load_unreachable found] at loaded
      cases loaded
    | ok content =>
      cases content with
      | none =>
        rw [load_missing found] at loaded
        cases loaded
      | some content =>
        rw [load_file found] at loaded
        obtain ⟨tree, read, settled⟩ := bind_eq_ok.mp loaded
        obtain ⟨expanded, expands, made⟩ := bind_eq_ok.mp settled
        obtain ⟨entries, rfl, checked⟩ := ClientConfig.ofTree_eq_ok.mp (mapError_eq_ok.mp made)
        exact ⟨content, tree, entries, rfl, read, mapError_eq_ok.mp expands, checked⟩
  · rintro ⟨content, tree, entries, found, read, expands, checked⟩
    rw [load_file found]
    refine bind_eq_ok.mpr ⟨tree, read,
      bind_eq_ok.mpr ⟨.map entries, mapError_eq_ok.mpr expands, ?_⟩⟩
    exact mapError_eq_ok.mpr (ClientConfig.ofTree_eq_ok.mpr ⟨entries, rfl, checked⟩)

private theorem label_of_faultOf (report : Schema.Report) :
    (faultOf path report).label ∈ valueKinds := by
  unfold faultOf
  split <;> simp [ConfigFault.label, valueKinds]

/-- Settling settings fails with what lies in a value, except for mappings that are too deep. -/
theorem settle_eq_error {tree : Tree} (failed : settle depths path env tree = .error fault) :
    fault.label ∈ valueKinds ∨ ¬ tree.Fits depths.tree ∧
      tree.expandWithin env depths.tree = .error .tooDeep ∧
      fault = .expansion .tooDeep := by
  rcases bind_eq_error.mp failed with failed | ⟨expanded, -, failed⟩
  · obtain ⟨cause, stopped, rfl⟩ := mapError_eq_error.mp failed
    cases cause with
    | unset missing => exact .inl (by simp [ConfigFault.label, valueKinds])
    | tooDeep =>
      refine .inr ⟨fun fits => ?_, stopped, rfl⟩
      obtain ⟨_, _, _, _, -, -, -, unset⟩ := (Tree.expandWithin_eq_error fits).mp stopped
      cases unset
  · obtain ⟨report, -, rfl⟩ := mapError_eq_error.mp failed
    exact .inl (label_of_faultOf report)

private theorem given_eq_error (failed : given depths path content = .error fault) :
    fault.label ∈ valueKinds ∨
    ∃ text : String, Text.Utf8.decode content = .ok text ∧
      parse depths path (Text.unifyLines text.toList) = .error fault := by
  rcases bind_eq_error.mp failed with failed | ⟨text, decoded, failed⟩
  · obtain ⟨cause, -, rfl⟩ := mapError_eq_error.mp failed
    exact .inl (by simp [ConfigFault.label, valueKinds])
  · rcases bind_eq_error.mp failed with stopped | ⟨tree, -, failed⟩
    · exact .inr ⟨text, mapError_eq_ok.mp decoded, stopped⟩
    · cases tree <;> cases failed <;> exact .inl (by simp [ConfigFault.label, valueKinds])

private theorem label_of_parse {text : List Char}
    (stopped : parse depths path text = .error fault) :
    fault.label ∈ valueKinds ∨ fault.label ∈ escapingKinds := by
  unfold parse at stopped
  split at stopped
  · obtain ⟨cause, -, rfl⟩ := mapError_eq_error.mp stopped
    exact ConfigFault.label_of_yaml cause
  · split at stopped <;> cases stopped
    exact ConfigFault.label_of_stop _

theorem Breaks.label_mem (breaks : Breaks depths path env content fault) :
    fault.label ∈ escapingKinds := by
  cases breaks with
  | reader decoded stopped escapes => exact (label_of_parse stopped).resolve_left escapes
  | depth read deep stopped => simp [ConfigFault.label, Yaml.Fault.label, escapingKinds]

/-- What the content of a file breaks with is what a load fails with. -/
theorem Breaks.load (breaks : Breaks depths path env content fault)
    (found : files.file? path = .ok (some content)) :
    load depths files path env = .error fault := by
  rw [load_file found]
  cases breaks with
  | reader decoded stopped escapes =>
    exact bind_eq_error.mpr (.inl (bind_eq_error.mpr (.inr
      ⟨_, mapError_eq_ok.mpr decoded, bind_eq_error.mpr (.inl stopped)⟩)))
  | depth read deep stopped =>
    exact bind_eq_error.mpr (.inr
      ⟨_, read, bind_eq_error.mpr (.inl (mapError_eq_error.mpr ⟨_, stopped, rfl⟩))⟩)

/-- A load of a file fails with what lies in a value, or with what the content breaks with. -/
theorem breaks_of_load (found : files.file? path = .ok (some content))
    (failed : load depths files path env = .error fault) :
    fault.label ∈ valueKinds ∨ Breaks depths path env content fault := by
  by_cases refused : fault.label ∈ valueKinds
  · exact .inl refused
  rw [load_file found] at failed
  rcases bind_eq_error.mp failed with failed | ⟨tree, read, failed⟩
  · obtain ⟨text, decoded, stopped⟩ := (given_eq_error failed).resolve_left refused
    exact .inr (.reader decoded stopped refused)
  · obtain ⟨deep, stopped, rfl⟩ := (settle_eq_error failed).resolve_left refused
    exact .inr (.depth read deep stopped)

/-- A load fails for what is at the path, for what lies in a value, or for what the file there
breaks with. -/
theorem load_eq_error (failed : load depths files path env = .error fault) :
    (files.file? path = .ok none ∧ fault = .notFound path) ∨
    (∃ cause, files.file? path = .error cause ∧ fault = .file cause) ∨
    ∃ content, files.file? path = .ok (some content) ∧
      (fault.label ∈ valueKinds ∨ Breaks depths path env content fault) := by
  cases found : files.file? path with
  | error cause =>
    cases (load_unreachable found).symm.trans failed
    exact .inr (.inl ⟨cause, rfl, rfl⟩)
  | ok content =>
    cases content with
    | none =>
      cases (load_missing found).symm.trans failed
      exact .inl ⟨rfl, rfl⟩
    | some content => exact .inr (.inr ⟨content, rfl, breaks_of_load found failed⟩)

/-- A path that leads to no file is the one thing that is reported as a missing file. -/
theorem load_missing_iff : files.file? path = .ok none ↔
    ∃ fault, load depths files path env = .error fault ∧ fault.label = "FileNotFoundError" := by
  constructor
  · exact fun missing => ⟨_, load_missing missing, rfl⟩
  · rintro ⟨fault, failed, label⟩
    rcases load_eq_error failed with ⟨missing, -⟩ | ⟨cause, found, rfl⟩ | ⟨content, -,
      refused | breaks⟩
    · exact missing
    · rw [ConfigFault.label, file?_eq_error found] at label
      simp [FileCause.label] at label
    · simp [label, valueKinds] at refused
    · simpa [label, escapingKinds] using breaks.label_mem

/-! ### Checks -/

theorem check_eq_true : check depths files path env = .ok true ↔
    ∃ config, load depths files path env = .ok config := by
  unfold check
  cases load depths files path env with
  | ok config => simp
  | error fault => cases refused : fault.isRefusal <;> simp [refused]

private theorem check_eq_false : check depths files path env = .ok false ↔
    ∃ fault, load depths files path env = .error fault ∧
      (fault.label ∈ systemKinds ∨ fault.label ∈ valueKinds) := by
  simp only [← ConfigFault.isRefusal_iff]
  unfold check
  cases load depths files path env with
  | ok config => simp
  | error fault => cases refused : fault.isRefusal <;> simp [refused]

private theorem check_eq_error : check depths files path env = .error fault ↔
    load depths files path env = .error fault ∧
      ¬ (fault.label ∈ systemKinds ∨ fault.label ∈ valueKinds) := by
  simp only [← ConfigFault.isRefusal_iff]
  unfold check
  cases load depths files path env with
  | ok config => simp
  | error other =>
    by_cases refused : other.isRefusal
    · simp only [refused, if_true]
      refine ⟨nofun, fun ⟨same, passes⟩ => ?_⟩
      cases same
      exact absurd refused passes
    · simp only [refused, Bool.false_eq_true, if_false, Except.error.injEq]
      exact ⟨fun same => ⟨same, same ▸ refused⟩, And.left⟩

/-- What leaves a check is what the content of a file breaks with. -/
theorem check_eq_error_iff : check depths files path env = .error fault ↔
    ∃ content, files.file? path = .ok (some content) ∧ Breaks depths path env content fault := by
  rw [check_eq_error]
  constructor
  · rintro ⟨loaded, escapes⟩
    rcases load_eq_error loaded with ⟨-, rfl⟩ | ⟨cause, -, rfl⟩ | ⟨content, found, refused | breaks⟩
    · exact absurd (.inl (by simp [ConfigFault.label, FileCause.label, systemKinds])) escapes
    · exact absurd (ConfigFault.label_of_file cause.cause) escapes
    · exact absurd (.inr refused) escapes
    · exact ⟨content, found, breaks⟩
  · rintro ⟨content, found, breaks⟩
    exact ⟨breaks.load found, not_or.mpr (ConfigFault.escapingKinds_apart _ breaks.label_mem)⟩

/-- What comes of loading a configuration file and of checking it, whatever stands at the
path, in the file and in the environment. A load fails because there is no file, because the
path is none that the file system takes, because of what lies in a value, or because the file
breaks; a check answers unless the file breaks. What is loaded is sound, and says what the
file says. -/
theorem loading_total (depths : Depths) (files : FileTree) (path : Path) (env : Environment) :
    (files.file? path = .ok none ↔
      ∃ fault, load depths files path env = .error fault ∧ fault.label = "FileNotFoundError") ∧
    (∀ fault, files.file? path = .error fault →
      fault.cause = .nameTooLong ∧ load depths files path env = .error (.file fault)) ∧
    (∀ content, files.file? path = .ok (some content) → ∀ fault,
      (load depths files path env = .error fault → fault.label ∈ valueKinds ∨
        Breaks depths path env content fault) ∧
      (Breaks depths path env content fault → load depths files path env = .error fault ∧
        fault.label ∈ escapingKinds)) ∧
    (check depths files path env = .ok true ↔ ∃ config, load depths files path env = .ok config) ∧
    (check depths files path env = .ok false ↔
      ∃ fault, load depths files path env = .error fault ∧
        (fault.label ∈ systemKinds ∨ fault.label ∈ valueKinds)) ∧
    (∀ fault, check depths files path env = .error fault ↔
      ∃ content, files.file? path = .ok (some content) ∧ Breaks depths path env content fault) ∧
    ∀ config, load depths files path env = .ok config → config.Sound ∧ ∃ content tree entries,
      files.file? path = .ok (some content) ∧ given depths path content = .ok tree ∧
        tree.Fits depths.tree ∧
        tree.expandWithin env depths.tree = .ok (.map entries) ∧ config.States entries := by
  refine ⟨load_missing_iff,
    fun fault failed => ⟨file?_eq_error failed, load_unreachable failed⟩, ?file, check_eq_true,
    check_eq_false, fun fault => check_eq_error_iff, ?config⟩
  case file =>
    intro content found fault
    exact ⟨breaks_of_load found, fun breaks => ⟨breaks.load found, breaks.label_mem⟩⟩
  case config =>
    intro config loaded
    obtain ⟨content, tree, entries, found, read, expands, made⟩ := load_eq_ok.mp loaded
    exact ⟨ClientConfig.sound_of_ofEntries made, content, tree, entries, found, read,
      Tree.fits_of_expandWithin expands, expands, ClientConfig.states_of_ofEntries made⟩

/-- There are files that can neither be loaded nor be checked. -/
theorem loading_breaks :
    let depths : Depths := ⟨900, 400, 400⟩
    let path : Path := ⟨"", ["kms.yaml"]⟩
    let files := FileTree.fresh.withFile path (Bytes.ofText "hash_func: !!int \"\"\n") 420
    let fault := ConfigFault.yaml path .emptyNumber
    load depths files path (fun _ => none) = .error fault ∧
      check depths files path (fun _ => none) = .error fault ∧
      fault.label = "IndexError" := by
  intro depths path files fault
  have found : files.file? path = .ok (some (Bytes.ofText "hash_func: !!int \"\"\n")) := by
    decide +kernel
  have decoded : Text.Utf8.decode (Bytes.ofText "hash_func: !!int \"\"\n") =
      .ok "hash_func: !!int \"\"\n" := by
    rw [Text.Utf8.decode, Bytes.text?_ofText]
  -- Trees cannot be compared, so the one that is not there is left out of the equation.
  have empty :
      (Yaml.parse depths.yaml (Text.unifyLines "hash_func: !!int \"\"\n".toList)).map
        (fun _ => ()) = .error .emptyNumber := by
    decide +kernel
  have yaml : isYaml path = true := by decide +kernel
  have stopped : parse depths path (Text.unifyLines "hash_func: !!int \"\"\n".toList) =
      .error fault := by
    rw [parse, if_pos yaml, map_eq_error.mp empty]
    rfl
  have breaks : Breaks depths path (fun _ => none) _ fault := .reader decoded stopped (by decide)
  exact ⟨breaks.load found, check_eq_error_iff.mpr ⟨_, found, breaks⟩, rfl⟩

end ConfigFile
end SignerPlugin
