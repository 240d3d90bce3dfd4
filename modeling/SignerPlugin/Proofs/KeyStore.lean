import Mathlib.Data.List.Induction
import SignerPlugin.LocalKey
import SignerPlugin.Proofs.FilePlaces
import SignerPlugin.Proofs.KeyData
import SignerPlugin.Proofs.KeyText
import SignerPlugin.Proofs.RequestedCall

/-! A key in a file over any calls. Whatever stands at its path stays as it is. A key comes to
be there only when it is asked for with an algorithm that is supported and the path leads
nowhere; from then on it answers every call. Where it comes to be nothing stood before, unless
the path has steps upwards: it can then lead to a file only after directories were made for
it, and that file is replaced. -/

namespace SignerPlugin

variable {σ α β : Type}

theorem KeyAlgorithm.ofName?_eq_some {name : String} {algorithm : KeyAlgorithm}
    (known : ofName? name = some algorithm) :
    algorithm.name = name := by
  have same := List.find?_some known
  exact of_decide_eq_true same

/-- A failure as signers tell it. -/
def LocalKeyFault.told (fault : LocalKeyFault) : Fault := ⟨fault.label, fault.message⟩

namespace LocalKey

variable {here : LocalKey} {disk : Disk} {files : FileTree} {key : PrivateKey} {call : Call}

/-- What a run comes to from a disk, with the disk after it. -/
def Run.outcome (run : Run α) (disk : Disk) : Except LocalKeyFault α × Disk := run.run.run disk

theorem asAction_outcome (run : Run α) (disk : Disk) :
    (asAction run).outcome disk = ((run.outcome disk).1.mapError LocalKeyFault.told,
      (run.outcome disk).2) := by
  have after : (asAction run).outcome disk = match run.outcome disk with
      | (.ok a, disk) => (.ok a, disk)
      | (.error fault, disk) => (.error fault.told, disk) := by
    unfold asAction Action.outcome Run.outcome
    simp only [ExceptT.run, ExceptT.mk, StateT.run_bind]
    cases (StateT.run run disk) with
    | mk result disk => cases result <;> rfl
  rw [after]
  cases run.outcome disk with
  | mk result disk => cases result <;> rfl

/-- What a key answers to a call. -/
def answerWith (here : LocalKey) (key : PrivateKey) :
    Call → Except LocalKeyFault (Answer PublicKey Text.CodeText)
  | .defaultAlgorithm => .ok (.algorithm KeyAlgorithm.ecdsaP256.name)
  | .supportedAlgorithms => .ok (.algorithms (KeyAlgorithm.all.map fun algorithm => algorithm.name))
  | .createKey _ _ => .ok (.key (here.suite.publicOf key))
  | .publicKey options => match OptionValues.ofCallOptions options with
    | .error option => .error (.misplaced option)
    | .ok _ => .ok (.key (here.suite.publicOf key))
  | .signMessage message options => (here.signWith key message (.ofOptions options)).map .signature
  | .verifySignature signature message options =>
    (here.verifyWith key signature message (.ofOptions options)).map fun _ => .verified

theorem map_mapError {ε δ : Type} (f : α → β) (g : ε → δ) (result : Except ε α) :
    (result.mapError g).map f = (result.map f).mapError g := by
  cases result <;> rfl

private theorem privateKey_outcome (here : LocalKey) (disk : Disk) :
    here.privateKey.outcome disk = (here.load disk.files, disk) := rfl

theorem exists?_of_load (loaded : here.load files = .ok key) :
    files.exists? here.path = .ok true := by
  unfold load at loaded
  split at loaded
  · cases loaded
  · cases loaded
  · assumption

theorem Run.outcome_bind (run : Run α) (next : α → Run β) (disk : Disk) :
    (run >>= next).outcome disk = match run.outcome disk with
      | (.ok a, after) => (next a).outcome after
      | (.error fault, after) => (.error fault, after) := by
  unfold Run.outcome
  simp only [ExceptT.run_bind, StateT.run_bind]
  cases (ExceptT.run run).run disk with
  | mk result after => cases result <;> rfl

theorem get_outcome (disk : Disk) : (get : Run Disk).outcome disk = (.ok disk, disk) := rfl

/-- What is done with the key once it is read: nothing that touches the disk. -/
theorem privateKey_bind_outcome (use : PrivateKey → Except LocalKeyFault α)
    (next : PrivateKey → Run α) (keeps : ∀ key disk, (next key).outcome disk = (use key, disk))
    (disk : Disk) :
    (here.privateKey >>= next).outcome disk = (here.load disk.files >>= use, disk) := by
  rw [Run.outcome_bind, privateKey_outcome]
  cases here.load disk.files with
  | error fault => rfl
  | ok key => exact keeps key disk

theorem publicKey_outcome (here : LocalKey) (options : List SignerOption) (disk : Disk) :
    (here.publicKey options).outcome disk = (match OptionValues.ofCallOptions options with
      | .error option => .error (.misplaced option)
      | .ok _ => here.load disk.files >>= fun key => .ok (here.suite.publicOf key), disk) := by
  rw [publicKey]
  cases OptionValues.ofCallOptions options with
  | error option => rfl
  | ok values => exact privateKey_bind_outcome _ _ (fun _ _ => rfl) disk

theorem sign_outcome (here : LocalKey) (message : Bytes) (options : List SignerOption)
    (disk : Disk) :
    (here.sign message options).outcome disk =
      (here.load disk.files >>= fun key => here.signWith key message
        (.ofOptions options), disk) := by
  refine privateKey_bind_outcome _ _ (fun key disk => ?_) disk
  cases here.signWith key message (.ofOptions options) <;> rfl

theorem verify_outcome (here : LocalKey) (signature message : Bytes)
    (options : List SignerOption) (disk : Disk) :
    (here.verify signature message options).outcome disk =
      (here.load disk.files >>= fun key => here.verifyWith key signature message
        (.ofOptions options), disk) := by
  refine privateKey_bind_outcome _ _ (fun key disk => ?_) disk
  cases here.verifyWith key signature message (.ofOptions options) <;> rfl

theorem createKey_outcome (here : LocalKey) (name : String) (disk : Disk) :
    (here.createKey name).outcome disk = match disk.files.exists? here.path with
      | .error fault => (.error (.file fault), disk)
      | .ok true => (here.load disk.files >>= fun key => .ok (here.suite.publicOf key), disk)
      | .ok false => match KeyAlgorithm.ofName? name with
        | some algorithm => (here.make algorithm).outcome disk
        | none => (.error (.unsupportedAlgorithm name), disk) := by
  rw [createKey, Run.outcome_bind, get_outcome]
  simp only
  cases disk.files.exists? here.path with
  | error fault => rfl
  | ok there =>
    cases there with
    | true => exact privateKey_bind_outcome _ _ (fun _ _ => rfl) disk
    | false => cases KeyAlgorithm.ofName? name <;> rfl

theorem make_outcome (here : LocalKey) (algorithm : KeyAlgorithm) (disk : Disk) :
    (here.make algorithm).outcome disk =
      let (key, entropy) := here.suite.generate algorithm disk.entropy
      let (fault, files) := here.store disk.files key
      (match fault with
        | some fault => .error (.file fault)
        | none => .ok (here.suite.publicOf key), ⟨files, entropy⟩) := by
  rw [make, Run.outcome_bind, get_outcome]
  simp only
  rw [Run.outcome_bind]
  cases (here.store disk.files (here.suite.generate algorithm disk.entropy).1).1 <;> rfl

/-! ### One call -/

theorem answer_createKey_outcome (here : LocalKey) (ctx : CallContext) (name : String)
    (disk : Disk) :
    (here.signer.answer (.createKey ctx name)).outcome disk =
      ((((here.createKey name).outcome disk).1.mapError LocalKeyFault.told).map .key,
        ((here.createKey name).outcome disk).2) := by
  simp only [Signer.answer, Action.outcome_map, signer, asAction_outcome]

/-- A key that can be read answers every call, and the disk stays as it is. -/
theorem answer_loaded (loaded : here.load disk.files = .ok key) (call : Call) :
    (here.signer.answer call).outcome disk =
      ((here.answerWith key call).mapError LocalKeyFault.told, disk) := by
  cases call with
  | defaultAlgorithm => rfl
  | supportedAlgorithms => rfl
  | createKey ctx name =>
    rw [answer_createKey_outcome, createKey_outcome, exists?_of_load loaded, loaded]
    rfl
  | publicKey options =>
    simp only [Signer.answer, Action.outcome_map, signer, asAction_outcome, publicKey_outcome,
      loaded, answerWith]
    cases OptionValues.ofCallOptions options <;> rfl
  | signMessage message options =>
    simp only [Signer.answer, Action.outcome_map, signer, asAction_outcome, sign_outcome,
      loaded, map_mapError]
    rfl
  | verifySignature signature message options =>
    simp only [Signer.answer, Action.outcome_map, signer, asAction_outcome, verify_outcome,
      loaded, map_mapError]
    rfl

/-- What a call does to the disk: nothing, unless it is to make a key with an algorithm that
is supported where nothing is. -/
theorem answer_disk (here : LocalKey) (call : Call) (disk : Disk) :
    ((here.signer.answer call).outcome disk).2 = disk ∨
      ∃ ctx algorithm, call = .createKey ctx (KeyAlgorithm.name algorithm) ∧
        disk.files.exists? here.path = .ok false ∧
        (here.createKey algorithm.name).outcome disk = (here.make algorithm).outcome disk := by
  cases call with
  | createKey ctx name =>
    rw [answer_createKey_outcome, createKey_outcome]
    cases stands : disk.files.exists? here.path with
    | error fault => exact .inl rfl
    | ok there =>
      cases there with
      | true => exact .inl rfl
      | false =>
        cases known : KeyAlgorithm.ofName? name with
        | none => exact .inl rfl
        | some algorithm =>
          obtain rfl := KeyAlgorithm.ofName?_eq_some known
          refine .inr ⟨ctx, algorithm, rfl, rfl, ?_⟩
          rw [createKey_outcome, stands, KeyAlgorithm.ofName?_name]
  | publicKey options =>
    refine .inl ?_
    simp only [Signer.answer, Action.outcome_map, signer, asAction_outcome, publicKey_outcome]
  | signMessage message options =>
    refine .inl ?_
    simp only [Signer.answer, Action.outcome_map, signer, asAction_outcome, sign_outcome]
  | verifySignature signature message options =>
    refine .inl ?_
    simp only [Signer.answer, Action.outcome_map, signer, asAction_outcome, verify_outcome]
  | _ => exact .inl rfl

/-! ### Making a key -/

/-- What storing a key makes of the files: directories at most, or the file of the key as
well, where the path leads then. Without either the key was written to a device. -/
theorem store_cases (here : LocalKey) (files : FileTree) (key : PrivateKey) :
    ∃ ready, files.Extends ready ∧
      ((∃ fault, here.store files key = (some fault, ready)) ∨
        (here.store files key = (none, ready) ∧
          ∃ location, ready.place here.path = .ok (.device location)) ∨
        ∃ location found, ready.place here.path = .ok found ∧ found.slot? = some location ∧
          here.store files key = (none, ready.put location
            (.file (here.suite.write key) 0o600))) := by
  have extended : files.Extends (files.makeDirectories here.path.parent).2 :=
    FileTree.makeStages_extends _ _ _
  unfold store
  cases made : files.makeDirectories here.path.parent with
  | mk fault ready =>
    rw [made] at extended
    refine ⟨ready, extended, ?_⟩
    cases fault with
    | some fault => exact .inl ⟨fault, rfl⟩
    | none =>
      simp only
      cases written : ready.write here.path (here.suite.write key) 0o600 with
      | error fault => exact .inl ⟨fault, rfl⟩
      | ok last =>
        rcases FileTree.write_eq_ok written with ⟨location, leads, rfl⟩ | ⟨location, found,
          leads, slot, rfl⟩
        · exact .inr (.inl ⟨rfl, location, leads⟩)
        · exact .inr (.inr ⟨location, found, leads, slot, rfl⟩)

theorem load_file {location : Location} {mode : Nat}
    (reads : here.suite.read (here.suite.write key) = .ok key)
    (leads : files.place here.path = .ok (.file location (here.suite.write key) mode)) :
    here.load files = .ok key := by
  have there : files.exists? here.path = .ok true := by rw [FileTree.exists?, leads]
  have content : files.read here.path = .ok (here.suite.write key) := by rw [FileTree.read, leads]
  simp only [load, there, content, reads]
  rfl

/-- What the making of a key with an algorithm makes of the files. -/
inductive Makes (here : LocalKey) (algorithm : KeyAlgorithm) (disk : Disk) : FileTree → Prop
  /-- The making failed, or the key went to a device. -/
  | directories {last : FileTree} (extended : disk.files.Extends last) :
      Makes here algorithm disk last
  | file {ready : FileTree} {location : Location} {found : FileTree.Place} {content : Bytes}
      (extended : disk.files.Extends ready) (leads : ready.place here.path = .ok found)
      (slot : found.slot? = some location)
      (written : content = here.suite.write (here.suite.generate algorithm disk.entropy).1) :
      Makes here algorithm disk (ready.put location (.file content 0o600))

private theorem make_makes (here : LocalKey) (algorithm : KeyAlgorithm) (disk : Disk) :
    Makes here algorithm disk ((here.make algorithm).outcome disk).2.files := by
  rw [make_outcome]
  obtain ⟨ready, extended,
    ⟨fault, stored⟩ | ⟨stored, -⟩ | ⟨location, found, leads, slot, stored⟩⟩ :=
    here.store_cases disk.files (here.suite.generate algorithm disk.entropy).1
  · simp only [stored]
    exact .directories extended
  · simp only [stored]
    exact .directories extended
  · simp only [stored]
    exact .file extended leads slot rfl

theorem Makes.rooted {algorithm : KeyAlgorithm} {last : FileTree}
    (makes : Makes here algorithm disk last) (rooted : disk.files.Rooted) : last.Rooted := by
  cases makes with
  | directories extended => exact extended.rooted rooted
  | file extended leads slot written =>
    have leaf := FileTree.Place.leaf?_of_slot? slot
    have around := FileTree.place_around (extended.rooted rooted) leads leaf
    exact (extended.rooted rooted).put around (FileTree.place_leaf leads leaf).2.1 _

/-- A call leaves the files as they are, or makes a key where nothing is. -/
theorem answer_files (here : LocalKey) (call : Call) (disk : Disk) :
    ((here.signer.answer call).outcome disk).2.files = disk.files ∨
      ∃ ctx algorithm, call = .createKey ctx (KeyAlgorithm.name algorithm) ∧
        disk.files.exists? here.path = .ok false ∧
        Makes here algorithm disk ((here.signer.answer call).outcome disk).2.files := by
  rcases here.answer_disk call disk with same | ⟨ctx, algorithm, rfl, absent, makes⟩
  · exact .inl (congrArg Disk.files same)
  · refine .inr ⟨ctx, algorithm, rfl, absent, ?_⟩
    rw [answer_createKey_outcome, makes]
    exact here.make_makes algorithm disk

/-- Whether the key that is made when one is asked for by name, if nothing is there yet, is
read as it was written. -/
def Reloads (here : LocalKey) (name : String) (disk : Disk) : Prop :=
  ∀ algorithm : KeyAlgorithm, algorithm.name = name → disk.files.exists? here.path = .ok false →
    let key := (here.suite.generate algorithm disk.entropy).1
    here.suite.read (here.suite.write key) = .ok key

/-- A key on an Edwards curve that is made and written by default is read as it was written. -/
theorem reloads_ed25519 (standard : here.suite = .standard) (disk : Disk) :
    here.Reloads KeyAlgorithm.ed25519.name disk := by
  intro algorithm named absent
  obtain rfl : algorithm = .ed25519 := by
    revert named
    cases algorithm <;> decide
  rw [standard]
  exact (PrivateKey.ofPem_toPem _).trans (PrivateKey.read_write_generate disk.entropy)

/-- A key that was made is read, unless its path leads to a device. -/
theorem load_of_made {algorithm : KeyAlgorithm} {known : PublicKey}
    (reads : let key := (here.suite.generate algorithm disk.entropy).1
      here.suite.read (here.suite.write key) = .ok key)
    (made : ((here.make algorithm).outcome disk).1 = .ok known)
    (kept : ∀ location, ((here.make algorithm).outcome disk).2.files.place here.path ≠
      .ok (.device location)) :
    ∃ key, here.suite.publicOf key = known ∧
      here.load ((here.make algorithm).outcome disk).2.files = .ok key := by
  rw [make_outcome] at made kept ⊢
  obtain ⟨ready, extended,
    ⟨fault, stored⟩ | ⟨stored, location, leads⟩ | ⟨location, found, leads, slot, stored⟩⟩ :=
    here.store_cases disk.files (here.suite.generate algorithm disk.entropy).1
  · simp only [stored] at made
    cases made
  · simp only [stored] at kept
    exact absurd leads (kept location)
  · simp only [stored] at made ⊢
    cases made
    exact ⟨_, rfl, load_file reads (FileTree.place_put leads slot)⟩

/-- Without steps upwards the path of a key that was made does not lead to a device. -/
theorem make_ne_device (rooted : disk.files.Rooted) (down : ".." ∉ here.path.names)
    (absent : disk.files.exists? here.path = .ok false) (algorithm : KeyAlgorithm)
    (location : Location) :
    ((here.make algorithm).outcome disk).2.files.place here.path ≠ .ok (.device location) := by
  rw [make_outcome]
  obtain ⟨ready, extended,
    ⟨fault, stored⟩ | ⟨stored, -⟩ | ⟨location, found, leads, slot, stored⟩⟩ :=
    here.store_cases disk.files (here.suite.generate algorithm disk.entropy).1
  · simp only [stored]
    exact FileTree.place_ne_device extended rooted down absent location
  · simp only [stored]
    exact FileTree.place_ne_device extended rooted down absent location
  · simp only [stored, FileTree.place_put leads slot]
    nofun

/-- A key that was created, or was there before, is read afterwards, unless it was made and
its path leads to a device. -/
theorem load_of_created {name : String} {known : PublicKey} (reloads : here.Reloads name disk)
    (created : ((here.createKey name).outcome disk).1 = .ok known)
    (kept : (disk.files.Rooted ∧ ".." ∉ here.path.names) ∨
      ∀ location, ((here.createKey name).outcome disk).2.files.place here.path ≠
        .ok (.device location)) :
    ∃ key, here.suite.publicOf key = known ∧
      here.load ((here.createKey name).outcome disk).2.files = .ok key := by
  rw [createKey_outcome] at created kept ⊢
  cases stands : disk.files.exists? here.path with
  | error fault =>
    rw [stands] at created
    cases created
  | ok there =>
    rw [stands] at created kept
    cases there with
    | true =>
      cases loaded : here.load disk.files with
      | error fault =>
        rw [loaded] at created
        cases created
      | ok key =>
        rw [loaded] at created
        exact ⟨key, Except.ok.inj created, rfl⟩
    | false =>
      cases known : KeyAlgorithm.ofName? name with
      | none =>
        rw [known] at created
        cases created
      | some algorithm =>
        simp only [known] at created kept ⊢
        have reads := reloads algorithm (KeyAlgorithm.ofName?_eq_some known) stands
        rcases kept with ⟨rooted, down⟩ | kept
        · exact load_of_made reads created (make_ne_device rooted down stands algorithm)
        · exact load_of_made reads created kept

/-! ### Any calls -/

/-- The disk after calls, one after the other. -/
def after (here : LocalKey) (disk : Disk) (calls : List Call) : Disk :=
  calls.foldl (fun disk call => ((here.signer.answer call).outcome disk).2) disk

theorem after_concat (here : LocalKey) (disk : Disk) (calls : List Call) (call : Call) :
    here.after disk (calls ++ [call]) =
      ((here.signer.answer call).outcome (here.after disk calls)).2 := by
  rw [after, List.foldl_append]
  rfl

/-- A path that leads to something protects all files. -/
theorem after_existing (here : LocalKey) (calls : List Call)
    (there : disk.files.exists? here.path = .ok true) :
    here.after disk calls = disk := by
  induction calls with
  | nil => rfl
  | cons call rest ih =>
    rcases here.answer_disk call disk with same | ⟨_, _, _, absent, _⟩
    · rw [after, List.foldl_cons, same]
      exact ih
    · rw [there] at absent
      cases absent

/-- Calls leave a tree with a root. -/
theorem after_rooted (here : LocalKey) (disk : Disk) (calls : List Call)
    (rooted : disk.files.Rooted) :
    (here.after disk calls).files.Rooted := by
  induction calls using List.reverseRecOn with
  | nil => exact rooted
  | append_singleton calls call ih =>
    rw [after_concat]
    rcases here.answer_files call (here.after disk calls) with same | ⟨_, _, _, _, makes⟩
    · rwa [same]
    · exact makes.rooted ih

/-- What stands at a location after calls: what stood there before, a directory where nothing
stood, or the key that the path leads to, which was made for one of the calls when the path
led nowhere. Without steps upwards nothing stood there by then. -/
theorem after_node? (here : LocalKey) (disk : Disk) (calls : List Call) (location : Location) :
    FileTree.Grows (disk.files.node? location) ((here.after disk calls).files.node? location) ∨
      ∃ earlier ctx algorithm later content,
        calls = earlier ++ .createKey ctx (KeyAlgorithm.name algorithm) :: later ∧
          (here.after disk earlier).files.exists? here.path = .ok false ∧
          (disk.files.Rooted → ".." ∉ here.path.names →
            (here.after disk earlier).files.node? location = none) ∧
          content = here.suite.write
            (here.suite.generate algorithm (here.after disk earlier).entropy).1 ∧
          (here.after disk calls).files.node? location = some (.file content 0o600) ∧
          (here.after disk calls).files.place here.path = .ok (.file location content 0o600) := by
  induction calls using List.reverseRecOn with
  | nil => exact .inl (.inl rfl)
  | append_singleton calls call ih =>
    rw [after_concat]
    rcases here.answer_files call (here.after disk calls) with
      same | ⟨ctx, algorithm, rfl, absent, makes⟩
    · rw [same]
      rcases ih with grown | ⟨earlier, ctx, algorithm, later, content, rfl, rest⟩
      · exact .inl grown
      · exact .inr ⟨earlier, ctx, algorithm, later ++ [call], content, by simp, rest⟩
    · have grown : FileTree.Grows (disk.files.node? location)
          ((here.after disk calls).files.node? location) := by
        rcases ih with grown | ⟨_, _, _, _, _, _, _, _, _, _, leads⟩
        · exact grown
        · rw [FileTree.exists?, leads] at absent
          cases absent
      generalize ((here.signer.answer (.createKey ctx algorithm.name)).outcome
        (here.after disk calls)).2.files = last
        at makes ⊢
      cases makes with
      | directories extended => exact .inl (grown.trans (extended.grows location))
      | @file ready place found content extended leads slot written =>
        by_cases same : location = place
        · subst same
          have leaf := FileTree.Place.leaf?_of_slot? slot
          have vacant (rooted : disk.files.Rooted) (down : ".." ∉ here.path.names) :
              (here.after disk calls).files.node? location = none :=
            FileTree.vacant_of_absent extended (here.after_rooted disk calls rooted) down
              absent leads leaf
          exact .inr ⟨calls, ctx, algorithm, [], content, rfl, absent, vacant, written,
            FileTree.node?_put_same (FileTree.place_leaf leads leaf).1 _,
              FileTree.place_put leads slot⟩
        · rw [FileTree.node?_put_other same]
          exact .inl (grown.trans (extended.grows location))

/-! ### A fresh tree -/

/-- A fresh tree with a key in a directory of its own. -/
def freshWith (content : Bytes) : FileTree :=
  (FileTree.fresh.put ["tmp", "work", "keys"] .directory).put ["tmp", "work", "keys", "key.pem"]
    (.file content 0o600)

theorem absent_fresh : FileTree.fresh.exists? ⟨"", ["keys", "key.pem"]⟩ = .ok false := by rfl

theorem store_fresh {here : LocalKey} (path : here.path = ⟨"", ["keys", "key.pem"]⟩)
    (key : PrivateKey) :
    here.store .fresh key = (none, freshWith (here.suite.write key)) := by
  rw [store, path]
  rfl

theorem place_freshWith (content : Bytes) : (freshWith content).place ⟨"", ["keys", "key.pem"]⟩ =
    .ok (.file ["tmp", "work", "keys", "key.pem"] content 0o600) := rfl

/-- In a fresh tree a key comes to be where it is asked for. -/
theorem answer_fresh {here : LocalKey} (path : here.path = ⟨"", ["keys", "key.pem"]⟩)
    (ctx : CallContext) (algorithm : KeyAlgorithm) (entropy : Entropy) :
    (here.signer.answer (.createKey ctx algorithm.name)).outcome ⟨.fresh, entropy⟩ =
      let (key, entropy) := here.suite.generate algorithm entropy
      (.ok (.key (here.suite.publicOf key)), ⟨freshWith (here.suite.write key), entropy⟩) := by
  have made := make_outcome here algorithm ⟨.fresh, entropy⟩
  simp only [store_fresh path] at made
  rw [answer_createKey_outcome, createKey_outcome]
  simp only [path, absent_fresh, KeyAlgorithm.ofName?_name, made]
  rfl

/-! ### The law -/

/-- The store of a key over any calls, from any files, where keys are made of the kind that is
asked for, and written, read and used in any way. Whatever its path leads to at first stays as
it is, with all other files. Each call leaves the files as they are, unless it asks for a key
with an algorithm that is supported when the path leads nowhere. What comes to stand anywhere
is a directory where nothing stood, or the file of a key of the kind that such a call asked
for, and the path leads to it; nothing stood there when the key was asked for, if the path has
no steps upwards. Once a key was created that is read as it was written, and not lost on a
device, which takes a path with steps upwards too, it answers all calls that follow. -/
theorem key_kept (here : LocalKey)
    (kinds : ∀ algorithm entropy, (here.suite.generate algorithm entropy).1.kind = algorithm.kind)
    (disk : Disk) (calls : List Call) :
    let last := here.after disk calls
    (disk.files.exists? here.path = .ok true → last.files = disk.files) ∧
    (∀ call, ((here.signer.answer call).outcome last).2.files = last.files ∨
      ∃ ctx algorithm, call = .createKey ctx (KeyAlgorithm.name algorithm) ∧
        last.files.exists? here.path = .ok false) ∧
    (∀ location, FileTree.Grows (disk.files.node? location) (last.files.node? location) ∨
      ∃ earlier ctx algorithm later key,
        calls = earlier ++ .createKey ctx (KeyAlgorithm.name algorithm) :: later ∧
          (here.after disk earlier).files.exists? here.path = .ok false ∧
          (disk.files.Rooted → ".." ∉ here.path.names →
            (here.after disk earlier).files.node? location = none) ∧
          key = (here.suite.generate algorithm (here.after disk earlier).entropy).1 ∧
          key.kind = algorithm.kind ∧
          last.files.node? location = some (.file (here.suite.write key) 0o600) ∧
          last.files.place here.path = .ok (.file location (here.suite.write key) 0o600)) ∧
    ∀ ctx name known, ((here.signer.answer (.createKey ctx name)).outcome last).1 =
      .ok (.key known) →
      let created := ((here.signer.answer (.createKey ctx name)).outcome last).2
      here.Reloads name last →
        ((disk.files.Rooted ∧ ".." ∉ here.path.names) ∨
          ∀ location, created.files.place here.path ≠ .ok (.device location)) →
        ∃ key, here.suite.publicOf key = known ∧ ∀ more call,
          (here.signer.answer call).outcome (here.after created more) =
            ((here.answerWith key call).mapError LocalKeyFault.told, here.after created more) := by
  refine ⟨?_, ?_, ?_, ?_⟩
  · intro there
    exact congrArg Disk.files (here.after_existing calls there)
  · intro call
    rcases here.answer_files call (here.after disk calls) with
      same | ⟨ctx, algorithm, asks, absent, _⟩
    · exact .inl same
    · exact .inr ⟨ctx, algorithm, asks, absent⟩
  · intro location
    rcases here.after_node? disk calls location with
      grown | ⟨earlier, ctx, algorithm, later, _, split, absent, vacant, rfl, rest⟩
    · exact .inl grown
    · exact .inr ⟨earlier, ctx, algorithm, later, _, split, absent, vacant, rfl,
        kinds algorithm _, rest⟩
  · intro ctx name known answered created reloads kept
    have made : ((here.createKey name).outcome (here.after disk calls)).1 = .ok known := by
      rw [answer_createKey_outcome] at answered
      obtain ⟨found, result, ⟨⟩⟩ := map_eq_ok.mp answered
      exact mapError_eq_ok.mp result
    have same : created = ((here.createKey name).outcome (here.after disk calls)).2 := by
      rw [← congrArg Prod.snd (here.answer_createKey_outcome ctx name (here.after disk calls))]
    rw [same] at kept ⊢
    obtain ⟨key, half, loaded⟩ := load_of_created reloads made
      (kept.imp_left fun plain => ⟨here.after_rooted disk calls plain.1, plain.2⟩)
    refine ⟨key, half, ?_⟩
    intro more call
    rw [here.after_existing more (exists?_of_load loaded)]
    exact answer_loaded loaded call

theorem rooted_fresh : FileTree.fresh.Rooted := .of_nodes rfl (by decide)

theorem key_kept_ed25519 :
    let here : LocalKey := ⟨⟨"", ["keys", "key.pem"]⟩, .sha256, .standard⟩
    let disk : Disk := ⟨.fresh, ⟨[], 0⟩⟩
    let key := (KeyAlgorithm.ed25519.generate disk.entropy).1
    let created := ((here.signer.answer (.createKey {} "ed25519")).outcome disk).2
    let last := here.after created
      [.createKey {} "rsa-2048-pkcs1v15-sha256", .createKey {} "rsa", .publicKey []]
    (∀ algorithm entropy, (here.suite.generate algorithm entropy).1.kind = algorithm.kind) ∧
      disk.files.Rooted ∧ disk.files.exists? here.path = .ok false ∧ here.Reloads "ed25519" disk ∧
      ((here.signer.answer (.createKey {} "ecdsa-p256-sha256")).outcome last).1 =
        .ok (.key key.publicKey) := by
  intro here disk key created last
  have answered : (here.signer.answer (.createKey {} "ed25519")).outcome disk =
      (.ok (.key key.publicKey), _) :=
    answer_fresh rfl {} .ed25519 ⟨[], 0⟩
  have reloads : here.Reloads "ed25519" disk := reloads_ed25519 rfl disk
  obtain ⟨-, -, -, later⟩ := key_kept here KeyAlgorithm.kind_generate disk []
  obtain ⟨found, half, answers⟩ :=
    later {} "ed25519" key.publicKey (congrArg Prod.fst answered) reloads
    (.inl ⟨rooted_fresh, by decide⟩)
  have answered : (here.signer.answer (.createKey {} "ecdsa-p256-sha256")).outcome last =
      (.ok (.key (here.suite.publicOf found)), last) := answers _ _
  refine ⟨KeyAlgorithm.kind_generate, rooted_fresh, absent_fresh, reloads, ?_⟩
  rw [answered, half]

/-! ### A path with a step upwards -/

/-- A fresh tree with a file in the working directory. -/
def besideWork (content : Bytes) : FileTree :=
  FileTree.fresh.put ["tmp", "work", "key.pem"] (.file content 0o600)

/-- As long as there is no directory to step up from, the path leads nowhere. -/
theorem absent_detour (content : Bytes) :
    (besideWork content).exists? ⟨"", ["x", "..", "key.pem"]⟩ = .ok false := by rfl

private theorem store_detour {here : LocalKey} (path : here.path = ⟨"", ["x", "..", "key.pem"]⟩)
    (content : Bytes) (key : PrivateKey) :
    here.store (besideWork content) key =
      (none, ((besideWork content).put ["tmp", "work", "x"] .directory).put
        ["tmp", "work", "key.pem"]
        (.file (here.suite.write key) 0o600)) := by
  rw [store, path]
  rfl

/-- The directory is made for the key, and then the path leads to the file beside it, which is
written. -/
theorem answer_detour {here : LocalKey} (path : here.path = ⟨"", ["x", "..", "key.pem"]⟩)
    (content : Bytes) (ctx : CallContext) (algorithm : KeyAlgorithm) (entropy : Entropy) :
    (here.signer.answer (.createKey ctx algorithm.name)).outcome ⟨besideWork content, entropy⟩ =
      let (key, entropy) := here.suite.generate algorithm entropy
      (.ok (.key (here.suite.publicOf key)),
        ⟨((besideWork content).put ["tmp", "work", "x"] .directory).put ["tmp", "work", "key.pem"]
          (.file (here.suite.write key) 0o600), entropy⟩) := by
  have made := make_outcome here algorithm ⟨besideWork content, entropy⟩
  simp only [store_detour path] at made
  rw [answer_createKey_outcome, createKey_outcome]
  simp only [path, absent_detour, KeyAlgorithm.ofName?_name, made]
  rfl

/-- A key that stands where a path leads only after a directory was made for it is replaced. -/
theorem key_replaced :
    let here : LocalKey := ⟨⟨"", ["x", "..", "key.pem"]⟩, .sha256, .standard⟩
    let old := (KeyAlgorithm.ecdsaP256.generate ⟨[1], 0⟩).1
    let new := (KeyAlgorithm.ed25519.generate ⟨[2], 0⟩).1
    let disk : Disk := ⟨besideWork (here.suite.write old), ⟨[2], 0⟩⟩
    let created := (here.signer.answer (.createKey {} KeyAlgorithm.ed25519.name)).outcome disk
    disk.files.node? ["tmp", "work", "key.pem"] = some (.file (here.suite.write old) 0o600) ∧
      here.suite.read (here.suite.write new) = .ok new ∧ new.kind ≠ old.kind ∧
      created.1 = .ok (.key new.publicKey) ∧
      created.2.files.node? ["tmp", "work", "key.pem"] =
        some (.file (here.suite.write new) 0o600) := by
  intro here old new disk created
  have answered := @answer_detour here rfl (here.suite.write old) {} .ed25519 ⟨[2], 0⟩
  refine ⟨FileTree.node?_put_same (by decide) _, ?_, ?_, congrArg Prod.fst answered, ?_⟩
  · exact (PrivateKey.ofPem_toPem _).trans (PrivateKey.read_write_generate ⟨[2], 0⟩)
  · simp only [new, old, KeyAlgorithm.kind_generate]
    decide
  · have files : created.2.files = _ := congrArg (fun result => result.2.files) answered
    rw [files]
    exact FileTree.node?_put_same (by decide) _

end LocalKey
end SignerPlugin
