import SignerPlugin.LocalKey.Creation
import SignerPlugin.Proofs.KeyStore

/-! Keys that many calls ask for at a time, in any order of their steps. A key that was handed
out stays until another call writes. If no call looks for the file between the look of another
call and its write, none ever does. -/

namespace SignerPlugin

/-- The halves of a key are of one kind. -/
theorem PrivateKey.kind_publicKey (key : PrivateKey) : key.publicKey.kind = key.kind := by
  cases key with
  | ec curve secret =>
    rw [publicKey]
    cases curve.curve.multiple secret <;> rfl
  | _ => rfl

namespace LocalKey

variable {here : LocalKey} {files last : FileTree} {call after : Creation} {key : PrivateKey}
  {known : PublicKey} {event : CreationEvent} {events : List CreationEvent}
  {state next : Creations} {i j : Nat}

/-- The call that an event is about, if it was begun before. -/
def CreationEvent.call? : CreationEvent → Option Nat
  | .begin _ _ => none
  | .test i => some i
  | .generate i => some i
  | .write i => some i
  | .answer i => some i

/-- Whether a call has found nothing and has not written yet. -/
def Stage.pending : Stage → Bool
  | .missing => true
  | .made _ => true
  | _ => false

/-- The public key that a call answers with, now or as soon as it answers. -/
def Creation.promised? (here : LocalKey) (call : Creation) : Option PublicKey :=
  match call.stage with
  | .stored key => some (here.suite.publicOf key)
  | .ended (.ok known) => some known
  | _ => none

/-- Whether what is made for a call is read as it was written. -/
def Creation.Readable (here : LocalKey) (call : Creation) : Prop :=
  let reads (key : PrivateKey) := here.suite.read (here.suite.write key) = .ok key
  match call.stage with
  | .begun | .missing => ∀ algorithm, KeyAlgorithm.ofName? call.algorithm = some algorithm →
    reads (here.suite.generate algorithm call.entropy).1
  | .made key => reads key
  | _ => True

/-- The file of a key with that public half. -/
def Stores (here : LocalKey) (files : FileTree) (known : PublicKey) : Prop :=
  ∃ key, here.suite.publicOf key = known ∧ here.load files = .ok key

/-- The same, unless the path leads to a device, which keeps nothing. -/
def Shows (here : LocalKey) (files : FileTree) (known : PublicKey) : Prop :=
  Stores here files known ∨ ∃ location, files.place here.path = .ok (.device location)

theorem Shows.exists? (shows : Shows here files known) : files.exists? here.path = .ok true := by
  rcases shows with ⟨key, -, loaded⟩ | ⟨location, leads⟩
  · exact exists?_of_load loaded
  · rw [FileTree.exists?, leads]

theorem Shows.stores (shows : Shows here files known)
    (kept : ∀ location, files.place here.path ≠ .ok (.device location)) :
    Stores here files known := by
  rcases shows with stores | ⟨location, leads⟩
  · exact stores
  · exact absurd leads (kept location)

/-! ### One step -/

/-- What an event about a call makes of it and of the files. -/
inductive Turn (here : LocalKey) (files : FileTree) (i : Nat) (call : Creation) :
    CreationEvent → Creation → FileTree → Prop
  | unknown {fault : FileFault} (begun : call.stage = .begun)
      (fails : files.exists? here.path = .error fault) :
      Turn here files i call (.test i) { call with stage := .ended (.error (.file fault)) } files
  | found (begun : call.stage = .begun) (there : files.exists? here.path = .ok true) :
      Turn here files i call (.test i)
        { call with stage := .ended ((here.load files).map here.suite.publicOf) } files
  | missed (begun : call.stage = .begun) (absent : files.exists? here.path = .ok false) :
      Turn here files i call (.test i) { call with stage := .missing } files
  | unsupported (missing : call.stage = .missing)
      (unknown : KeyAlgorithm.ofName? call.algorithm = none) :
      Turn here files i call (.generate i)
        { call with stage := .ended (.error (.unsupportedAlgorithm call.algorithm)) } files
  | made {algorithm : KeyAlgorithm} (missing : call.stage = .missing)
      (supported : KeyAlgorithm.ofName? call.algorithm = some algorithm) :
      Turn here files i call (.generate i)
        { call with
          entropy := (here.suite.generate algorithm call.entropy).2
          stage := .made (here.suite.generate algorithm call.entropy).1 } files
  | unwritten {key : PrivateKey} {fault : FileFault} {last : FileTree}
      (made : call.stage = .made key) (stores : here.store files key = (some fault, last)) :
      Turn here files i call (.write i) { call with stage := .ended (.error (.file fault)) } last
  | stored {key : PrivateKey} {last : FileTree} (made : call.stage = .made key)
      (stores : here.store files key = (none, last)) :
      Turn here files i call (.write i) { call with stage := .stored key } last
  | answered {key : PrivateKey} (stored : call.stage = .stored key) :
      Turn here files i call (.answer i)
        { call with stage := .ended (.ok (here.suite.publicOf key)) } files

theorem Turn.of_turn (about : event.call? = some i)
    (turned : call.turn here files event = some (after, last)) :
    Turn here files i call event after last := by
  cases event with
  | begin algorithm entropy => cases about
  | test j =>
    cases about
    simp only [Creation.turn] at turned
    split at turned
    · rename_i begun
      cases turned
      unfold Creation.tested
      split
      · exact .unknown begun ‹_›
      · exact .found begun ‹_›
      · exact .missed begun ‹_›
    · cases turned
  | generate j =>
    cases about
    simp only [Creation.turn] at turned
    split at turned
    · rename_i missing
      cases turned
      unfold Creation.generated
      split
      · exact .unsupported missing ‹_›
      · exact .made missing ‹_›
    · cases turned
  | write j =>
    cases about
    simp only [Creation.turn] at turned
    split at turned
    · rename_i key made
      unfold Creation.written at turned
      split at turned
      · cases turned
        exact .unwritten made ‹_›
      · cases turned
        exact .stored made ‹_›
    · cases turned
  | answer j =>
    cases about
    simp only [Creation.turn] at turned
    split at turned
    · cases turned
      exact .answered ‹_›
    · cases turned

/-- Files change only where a call writes the key that was made for it. -/
theorem Turn.files_eq (turn : Turn here files i call event after last) :
    last = files ∨ event = .write i ∧ call.stage.pending = true := by
  cases turn with
  | unwritten made _ => exact .inr ⟨rfl, by rw [made]; rfl⟩
  | stored made _ => exact .inr ⟨rfl, by rw [made]; rfl⟩
  | _ => exact .inl rfl

/-- A call is pending once it has found nothing. -/
theorem Turn.pending (turn : Turn here files i call event after last)
    (pending : after.stage.pending = true) :
    last = files ∧
      (call.stage.pending = true ∨ event = .test i ∧ files.exists? here.path = .ok false) := by
  cases turn with
  | missed _ absent => exact ⟨rfl, .inr ⟨rfl, absent⟩⟩
  | made missing _ => exact ⟨rfl, .inl (by rw [missing]; rfl)⟩
  | _ => cases pending

theorem Turn.readable (turn : Turn here files i call event after last)
    (readable : call.Readable here) :
    after.Readable here := by
  cases turn with
  | missed begun _ =>
    rw [Creation.Readable, begun] at readable
    exact readable
  | made missing supported =>
    rw [Creation.Readable, missing] at readable
    exact readable _ supported
  | _ => trivial

/-- A call promises a key that is there when it does so. -/
theorem Turn.promised (turn : Turn here files i call event after last)
    (readable : call.Readable here) (promised : after.promised? here = some known) :
    (last = files ∧ call.promised? here = some known) ∨
      ((event = .test i ∨ event = .write i) ∧ Shows here last known) := by
  cases turn with
  | unknown _ _ => cases promised
  | found begun there =>
    refine .inr ⟨.inl rfl, .inl ?_⟩
    cases loaded : here.load files with
    | error fault =>
      rw [Creation.promised?, loaded] at promised
      cases promised
    | ok key =>
      rw [Creation.promised?, loaded] at promised
      exact ⟨key, Option.some.inj promised, loaded⟩
  | missed _ _ => cases promised
  | unsupported _ _ => cases promised
  | made _ _ => cases promised
  | unwritten _ _ => cases promised
  | @stored key last made stores =>
    rw [Creation.Readable, made] at readable
    refine .inr ⟨.inr rfl, ?_⟩
    obtain ⟨ready, -, ⟨fault, failed⟩ | ⟨same, device⟩ | ⟨location, found, leads, slot,
      same⟩⟩ := here.store_cases files key
    · rw [stores] at failed
      cases failed
    · rw [stores] at same
      cases same
      exact .inr device
    · rw [stores] at same
      cases same
      exact .inl ⟨key, Option.some.inj promised, load_file readable (FileTree.place_put leads slot)⟩
  | answered stored =>
    refine .inl ⟨rfl, ?_⟩
    rw [Creation.promised?, stored]
    exact promised

namespace Creations

/-- What a call is in after an event: new, the same as before, or turned by it. -/
inductive Becomes (here : LocalKey) (state next : Creations) (i : Nat) :
    CreationEvent → Creation → Prop
  | begun {algorithm : String} {entropy : Entropy} (same : next.files = state.files) :
      Becomes here state next i (.begin algorithm entropy) ⟨algorithm, entropy, .begun⟩
  | same {event : CreationEvent} {call : Creation} (apart : event.call? ≠ some i)
      (known : state.calls[i]? = some call) : Becomes here state next i event call
  | turned {event : CreationEvent} {call after : Creation} (known : state.calls[i]? = some call)
      (turn : Turn here state.files i call event after next.files) :
        Becomes here state next i event after

/-- An event is about a call that was begun before, or begins one. -/
theorem step_cases (steps : state.step here event = some next) :
    (∃ algorithm entropy, event = .begin algorithm entropy ∧
      next = { state with calls := state.calls ++ [{ algorithm, entropy }] }) ∨
    ∃ i call after, event.call? = some i ∧ state.calls[i]? = some call ∧
      Turn here state.files i call event after next.files ∧
        next.calls = state.calls.set i after := by
  have about {i : Nat} (is : event.call? = some i)
      (steps : (do
        let turned ← (← state.calls[i]?).turn here state.files event
        return (⟨turned.2, state.calls.set i turned.1⟩ : Creations)) = some next) :
      ∃ i call after, event.call? = some i ∧ state.calls[i]? = some call ∧
        Turn here state.files i call event after next.files ∧
          next.calls = state.calls.set i after := by
    obtain ⟨call, known, steps⟩ := Option.bind_eq_some_iff.mp steps
    obtain ⟨⟨after, files⟩, turned, same⟩ := Option.bind_eq_some_iff.mp steps
    cases same
    exact ⟨i, call, after, is, known, .of_turn is turned, rfl⟩
  cases event with
  | begin algorithm entropy => exact .inl ⟨algorithm, entropy, rfl, (Option.some.inj steps).symm⟩
  | test i => exact .inr (about rfl steps)
  | generate i => exact .inr (about rfl steps)
  | write i => exact .inr (about rfl steps)
  | answer i => exact .inr (about rfl steps)

theorem Becomes.of_step (steps : state.step here event = some next)
    (known : next.calls[j]? = some call) :
    Becomes here state next j event call := by
  rcases step_cases steps with ⟨algorithm, entropy, rfl, rfl⟩ | ⟨i, before, after, about, stood,
    turn, calls⟩
  · simp only [List.getElem?_append, List.getElem?_singleton] at known
    split at known
    · exact .same nofun known
    · obtain ⟨-, same⟩ := Option.ite_none_right_eq_some.mp known
      cases same
      exact .begun rfl
  · rw [calls, List.getElem?_set] at known
    by_cases same : i = j
    · subst same
      have place := (List.getElem?_eq_some_iff.mp stood).1
      rw [if_pos rfl, if_pos place] at known
      obtain rfl := Option.some.inj known
      exact .turned stood turn
    · rw [if_neg same] at known
      refine .same ?_ known
      rw [about]
      exact fun equal => same (Option.some.inj equal)

/-- What an event does to the files: nothing, unless a call writes the key that was made for it. -/
theorem step_files (steps : state.step here event = some next) :
    next.files = state.files ∨
      ∃ i call, event = .write i ∧ state.calls[i]? = some call ∧ call.stage.pending = true := by
  rcases step_cases steps with ⟨algorithm, entropy, rfl, rfl⟩ | ⟨i, call, after, -, stood, turn, -⟩
  · exact .inl rfl
  · rcases turn.files_eq with same | ⟨rfl, pending⟩
    · exact .inl same
    · exact .inr ⟨i, call, rfl, stood, pending⟩

/-! ### Any order -/

/-- What is made for any call is read as it was written. -/
def Readable (here : LocalKey) (state : Creations) : Prop :=
  ∀ (i : Nat) (call : Creation), state.calls[i]? = some call → call.Readable here

theorem Readable.step (readable : Readable here state)
    (begins : ∀ algorithm entropy, event = .begin algorithm entropy →
      Creation.Readable here ⟨algorithm, entropy, .begun⟩)
    (steps : state.step here event = some next) : Readable here next := by
  intro i call known
  cases Becomes.of_step steps known with
  | begun _ => exact begins _ _ rfl
  | same _ known => exact readable i call known
  | turned known turn => exact turn.readable (readable i _ known)

theorem play_concat (here : LocalKey) (state : Creations) (events : List CreationEvent)
    (event : CreationEvent) :
    state.play here (events ++ [event]) =
      ((state.play here events).step here event).getD (state.play here events) := by
  rw [play, List.foldl_append]
  rfl

/-- What holds at first, and after each event if it held before, holds after all of them. -/
theorem play_induction {motive : List CreationEvent → Creations → Prop} (start : motive [] state)
    (idles : ∀ earlier event, earlier ++ [event] <+: events →
    motive earlier (state.play here earlier) →
      (state.play here earlier).step here event = none →
        motive (earlier ++ [event]) (state.play here earlier))
    (keeps : ∀ earlier event next, earlier ++ [event] <+: events →
      motive earlier (state.play here earlier) →
      (state.play here earlier).step here event = some next → motive (earlier ++ [event]) next) :
    motive events (state.play here events) := by
  induction events using List.reverseRecOn with
  | nil => exact start
  | append_singleton earlier event ih =>
    have longer : earlier <+: earlier ++ [event] := List.prefix_append _ _
    have before := ih (fun early event within => idles early event (within.trans longer))
      (fun early event next within => keeps early event next (within.trans longer))
    rw [play_concat]
    cases stepped : (state.play here earlier).step here event with
    | none => exact idles earlier event (List.prefix_refl _) before stepped
    | some next => exact keeps earlier event next (List.prefix_refl _) before stepped

/-- The calls that are begun are such that what is made for them is read as it was written. -/
def Begins (here : LocalKey) (events : List CreationEvent) : Prop :=
  ∀ algorithm entropy, .begin algorithm entropy ∈ events →
    Creation.Readable here ⟨algorithm, entropy, .begun⟩

private theorem play_readable (begins : Begins here events) :
    Readable here (play here ⟨files, []⟩ events) := by
  refine play_induction (motive := fun _ state => Readable here state) ?_ ?_ ?_
  · intro i call known
    cases known
  · intro earlier event _ readable _
    exact readable
  · intro earlier event next within readable steps
    refine readable.step ?_ steps
    rintro algorithm entropy rfl
    exact begins algorithm entropy (within.subset (by simp))

/-- The event that decides what a call answers with: its test or its write. The key is there
after it. -/
structure Decides (here : LocalKey) (files : FileTree) (events : List CreationEvent) (i : Nat)
    (known : PublicKey) (earlier : List CreationEvent) (event : CreationEvent)
    (later : List CreationEvent) : Prop where
  split : events = earlier ++ event :: later
  own : event = .test i ∨ event = .write i
  shows : Shows here (play here ⟨files, []⟩ (earlier ++ [event])).files known
  /-- The key is there as long as no call writes. -/
  lasts : (∀ j, .write j ∉ later) →
    (play here ⟨files, []⟩ events).files = (play here ⟨files, []⟩ (earlier ++ [event])).files

theorem Decides.extend {answer : PublicKey} {earlier later : List CreationEvent}
    {decisive : CreationEvent}
    (decides : Decides here files events i answer earlier decisive later)
    (same : (∀ j, event ≠ .write j) →
      (play here ⟨files, []⟩ (events ++ [event])).files = (play here ⟨files, []⟩ events).files) :
    Decides here files (events ++ [event]) i answer earlier decisive (later ++ [event]) where
  split := by rw [decides.split, List.append_assoc, List.cons_append]
  own := decides.own
  shows := decides.shows
  lasts unwritten := by
    rw [same fun j is => unwritten j (by simp [is])]
    exact decides.lasts fun j member => unwritten j (List.mem_append_left _ member)

/-- Whatever the order of events, a call answers with a key that was there at some time during
it. -/
theorem play_promised {answer : PublicKey} (begins : Begins here events)
    (known : (play here ⟨files, []⟩ events).calls[i]? = some call)
    (promised : call.promised? here = some answer) :
    ∃ earlier event later, Decides here files events i answer earlier event later := by
  induction events using List.reverseRecOn generalizing call answer with
  | nil => cases known
  | append_singleton before event ih =>
    have begun : Begins here before := fun algorithm entropy member =>
      begins algorithm entropy (List.mem_append_left _ member)
    have readable : Readable here (play here ⟨files, []⟩ before) := play_readable begun
    have played := play_concat here ⟨files, []⟩ before event
    cases stepped : (play here ⟨files, []⟩ before).step here event with
    | none =>
      rw [stepped, Option.getD_none] at played
      rw [played] at known
      obtain ⟨earlier, decisive, later, decides⟩ := ih begun known promised
      exact ⟨earlier, decisive, later ++ [event], decides.extend fun _ => by rw [played]⟩
    | some next =>
      rw [stepped, Option.getD_some] at played
      rw [played] at known
      have earlierDecision {call : Creation}
          (known : (play here ⟨files, []⟩ before).calls[i]? = some call)
          (promised : call.promised? here = some answer) :
          ∃ earlier decisive later, Decides here files (before ++ [event]) i answer earlier
            decisive later := by
        obtain ⟨earlier, decisive, later, decides⟩ := ih begun known promised
        refine ⟨earlier, decisive, later ++ [event], decides.extend fun unwritten => ?_⟩
        rw [played]
        rcases step_files stepped with same | ⟨j, _, is, _, _⟩
        · exact same
        · exact absurd is (unwritten j)
      cases Becomes.of_step stepped known with
      | begun _ => cases promised
      | same _ known => exact earlierDecision known promised
      | turned known turn =>
        rcases turn.promised (readable i _ known) promised with ⟨-, promised⟩ | ⟨own, shows⟩
        · exact earlierDecision known promised
        · refine ⟨before, event, [], rfl, own, ?_, fun _ => rfl⟩
          rw [played]
          exact shows

/-! ### One after the other -/

/-- No call looks for the file while another one has found nothing and not written yet. -/
def Undisturbed (here : LocalKey) (files : FileTree) (events : List CreationEvent) : Prop :=
  ∀ n i, events[n]? = some (.test i) →
    ∀ call ∈ (play here ⟨files, []⟩ (events.take n)).calls, call.stage.pending = false

/-- At most one call is about to write, and it writes where nothing is; what is promised is
there. -/
structure Orderly (here : LocalKey) (state : Creations) : Prop where
  single : ∀ {i j : Nat} {first second : Creation}, state.calls[i]? = some first →
    state.calls[j]? = some second →
    first.stage.pending = true → second.stage.pending = true → i = j
  absent : ∀ {i : Nat} {call : Creation}, state.calls[i]? = some call → call.stage.pending = true →
    state.files.exists? here.path = .ok false
  shown : ∀ {i : Nat} {call : Creation} {known : PublicKey}, state.calls[i]? = some call →
    call.promised? here = some known → Shows here state.files known

/-- A call that is pending after an event was so before, or has just looked for the file. -/
theorem pending_before (steps : state.step here event = some next)
    (known : next.calls[i]? = some call) (pending : call.stage.pending = true) :
    (∃ before, state.calls[i]? = some before ∧ before.stage.pending = true ∧
        (event.call? = some i → next.files = state.files)) ∨
      event = .test i ∧ next.files = state.files ∧ state.files.exists? here.path = .ok false := by
  cases Becomes.of_step steps known with
  | begun _ => cases pending
  | same apart known => exact .inl ⟨call, known, pending, fun about => absurd about apart⟩
  | turned known turn =>
    obtain ⟨same, before | ⟨tests, absent⟩⟩ := turn.pending pending
    · exact .inl ⟨_, known, before, fun _ => same⟩
    · exact .inr ⟨tests, same, absent⟩

theorem Orderly.step (orderly : Orderly here state) (readable : Readable here state)
    (alone : ∀ i, event = .test i → ∀ call ∈ state.calls, call.stage.pending = false)
    (steps : state.step here event = some next) : Orderly here next := by
  have idle {i j : Nat} {call : Creation} (tests : event = .test i)
      (known : state.calls[j]? = some call)
      (pending : call.stage.pending = true) : False := by
    rw [alone i tests call (List.mem_of_getElem? known)] at pending
    cases pending
  refine ⟨?single, ?absent, ?shown⟩
  case single =>
    intro i j first second firstKnown secondKnown firstPending secondPending
    rcases pending_before steps firstKnown firstPending with
      ⟨_, firstStood, firstWaits, -⟩ | ⟨firstTests, -, -⟩
    · rcases pending_before steps secondKnown secondPending with
        ⟨_, secondStood, secondWaits, -⟩ | ⟨secondTests, -, -⟩
      · exact orderly.single firstStood secondStood firstWaits secondWaits
      · exact (idle secondTests firstStood firstWaits).elim
    · rcases pending_before steps secondKnown secondPending with
        ⟨_, secondStood, secondWaits, -⟩ | ⟨secondTests, -, -⟩
      · exact (idle firstTests secondStood secondWaits).elim
      · rw [firstTests] at secondTests
        exact CreationEvent.test.inj secondTests
  case absent =>
    intro i call known pending
    rcases pending_before steps known pending with ⟨before, stood, waits, own⟩ | ⟨-, same, absent⟩
    · have absent := orderly.absent stood waits
      rcases step_files steps with same | ⟨j, writer, writes, stands, makes⟩
      · rw [same]
        exact absent
      · -- The writer is pending too, so it is the same call, which would not be pending after it.
        obtain rfl := orderly.single stood stands waits makes
        rw [own (by rw [writes]; rfl)]
        exact absent
    · rw [same]
      exact absent
  case shown =>
    intro i call answer known promised
    cases Becomes.of_step steps known with
    | begun _ => cases promised
    | same _ known =>
      have shows := orderly.shown known promised
      rcases step_files steps with same | ⟨j, writer, -, stands, makes⟩
      · rw [same]
        exact shows
      · -- Nothing can be promised yet where a call is about to write.
        have absent := orderly.absent stands makes
        rw [shows.exists?] at absent
        cases absent
    | turned known turn =>
      rcases turn.promised (readable i _ known) promised with ⟨same, promised⟩ | ⟨-, shows⟩
      · rw [same]
        exact orderly.shown known promised
      · exact shows

private theorem play_orderly (begins : Begins here events)
    (undisturbed : Undisturbed here files events) :
    Orderly here (play here ⟨files, []⟩ events) := by
  refine (play_induction (motive := fun _ state => Readable here state ∧
    Orderly here state) ?_ ?_ ?_).2
  · have none {i : Nat} {call : Creation} (known : ([] : List Creation)[i]? = some call) :
        False := by cases known
    exact ⟨fun _ _ known => (none known).elim,
      ⟨fun known => (none known).elim, fun known => (none known).elim,
        fun known => (none known).elim⟩⟩
  · intro earlier event _ before _
    exact before
  · intro earlier event next within ⟨readable, orderly⟩ steps
    refine ⟨readable.step ?_ steps, orderly.step readable ?_ steps⟩
    · rintro algorithm entropy rfl
      exact begins algorithm entropy (within.subset (by simp))
    · rintro i rfl
      obtain ⟨rest, rfl⟩ := within
      have alone := undisturbed earlier.length i (by simp)
      rwa [List.append_assoc, List.take_left] at alone

/-! ### The law -/

/-- The steps of a single call. -/
def alone (algorithm : String) (entropy : Entropy) : List CreationEvent :=
  [.begin algorithm entropy, .test 0, .generate 0, .write 0, .answer 0]

/-- A call that no other one interrupts does what asking for a key does. -/
theorem play_alone (here : LocalKey) (files : FileTree) (algorithm : String) (entropy : Entropy) :
    ∃ call, play here ⟨files, []⟩ (alone algorithm entropy) =
        ⟨((here.createKey algorithm).outcome ⟨files, entropy⟩).2.files, [call]⟩ ∧
      call.stage = .ended ((here.createKey algorithm).outcome ⟨files, entropy⟩).1 := by
  rw [createKey_outcome]
  cases tested : files.exists? here.path with
  | error fault =>
    refine ⟨⟨algorithm, entropy, .ended (.error (.file fault))⟩, ?_, rfl⟩
    simp [alone, play, step, Creation.turn, Creation.tested, tested]
  | ok there =>
    cases there with
    | true =>
      refine ⟨⟨algorithm, entropy, .ended ((here.load files).map here.suite.publicOf)⟩, ?_, ?_⟩
      · simp [alone, play, step, Creation.turn, Creation.tested, tested]
      · cases here.load files <;> rfl
    | false =>
      cases known : KeyAlgorithm.ofName? algorithm with
      | none =>
        refine ⟨⟨algorithm, entropy, .ended (.error (.unsupportedAlgorithm algorithm))⟩, ?_, rfl⟩
        simp [alone, play, step, Creation.turn, Creation.tested, Creation.generated, tested, known]
      | some found =>
        simp only [make_outcome]
        cases stores : here.store files (here.suite.generate found entropy).1 with
        | mk fault last =>
          cases fault with
          | some fault =>
            refine ⟨⟨algorithm, (here.suite.generate found entropy).2,
              .ended (.error (.file fault))⟩, ?_, rfl⟩
            simp [alone, play, step, Creation.turn, Creation.tested, Creation.generated,
              Creation.written, tested, known, stores]
          | none =>
            refine ⟨⟨algorithm, (here.suite.generate found entropy).2,
              .ended (.ok (here.suite.publicOf (here.suite.generate found entropy).1))⟩, ?_, rfl⟩
            simp [alone, play, step, Creation.turn, Creation.tested, Creation.generated,
              Creation.written, tested, known, stores]

/-- Calls for a key at a time, in any order of their steps. One that no other call interrupts
does what asking for a key does. The key that any call answers with was there when the call
looked for it or wrote it, and it is there as long as no call writes after that. If no call
looks for the file between the look of another one and its write, all keys that were handed
out are there in the end, unless the path leads to a device. -/
theorem creation_kept (here : LocalKey) (files : FileTree) (events : List CreationEvent)
    (begins : Begins here events) :
    let last := play here ⟨files, []⟩ events
    (∀ algorithm entropy, ∃ call, play here ⟨files, []⟩ (alone algorithm entropy) =
        ⟨((here.createKey algorithm).outcome ⟨files, entropy⟩).2.files, [call]⟩ ∧
      call.stage = .ended ((here.createKey algorithm).outcome ⟨files, entropy⟩).1) ∧
    (∀ (i : Nat) (call : Creation) (known : PublicKey), last.calls[i]? = some call →
      call.stage = .ended (.ok known) →
      ∃ earlier event later, Decides here files events i known earlier event later) ∧
    (Undisturbed here files events →
      (∀ location, last.files.place here.path ≠ .ok (.device location)) →
      ∀ (i : Nat) (call : Creation) (known : PublicKey), last.calls[i]? = some call →
        call.stage = .ended (.ok known) → Stores here last.files known) := by
  have promised {call : Creation} {known : PublicKey} (ended : call.stage = .ended (.ok known)) :
      call.promised? here = some known := by rw [Creation.promised?, ended]
  refine ⟨play_alone here files, ?_, ?_⟩
  · intro i call known stands ended
    exact play_promised begins stands (promised ended)
  · intro undisturbed kept i call known stands ended
    exact ((play_orderly begins undisturbed).shown stands (promised ended)).stores kept

theorem readable_ed25519 (standard : here.suite = .standard) (entropy : Entropy) :
    Creation.Readable here ⟨KeyAlgorithm.ed25519.name, entropy, .begun⟩ := by
  intro algorithm known
  rw [KeyAlgorithm.ofName?_name] at known
  obtain rfl := Option.some.inj known
  rw [standard]
  exact (PrivateKey.ofPem_toPem _).trans (PrivateKey.read_write_generate entropy)

private theorem exists?_freshWith (content : Bytes) :
    (freshWith content).exists? ⟨"", ["keys", "key.pem"]⟩ = .ok true := by
  rw [FileTree.exists?, place_freshWith]

/-- A first call in a fresh tree, as far as its answer or to the beginning of a second one. -/
theorem play_alone_fresh (here : LocalKey) (path : here.path = ⟨"", ["keys", "key.pem"]⟩)
    (algorithm : KeyAlgorithm) (entropy : Entropy) :
    let made := here.suite.generate algorithm entropy
    play here ⟨.fresh, []⟩ (alone algorithm.name entropy) =
      ⟨freshWith (here.suite.write made.1),
        [⟨algorithm.name, made.2, .ended (.ok (here.suite.publicOf made.1))⟩]⟩ := by
  intro made
  have absent : FileTree.fresh.exists? here.path = .ok false := by rw [path]; exact absent_fresh
  simp [alone, play, step, Creation.turn, Creation.tested, Creation.generated, Creation.written,
    absent, KeyAlgorithm.ofName?_name, store_fresh path, made]

/-- The second of two calls, one after the other. -/
theorem play_again (here : LocalKey) (path : here.path = ⟨"", ["keys", "key.pem"]⟩)
    {algorithm : KeyAlgorithm} {entropy : Entropy}
    (reads : let key := (here.suite.generate algorithm entropy).1
      here.suite.read (here.suite.write key) = .ok key) (name : String) (late : Entropy) :
    let made := here.suite.generate algorithm entropy
    play here ⟨.fresh, []⟩ (alone algorithm.name entropy ++ [.begin name late, .test 1]) =
      ⟨freshWith (here.suite.write made.1),
        [⟨algorithm.name, made.2, .ended (.ok (here.suite.publicOf made.1))⟩,
        ⟨name, late, .ended (.ok (here.suite.publicOf made.1))⟩]⟩ := by
  intro made
  have there : (freshWith (here.suite.write made.1)).exists? here.path = .ok true := by
    rw [path]
    exact exists?_freshWith _
  have loaded : here.load (freshWith (here.suite.write made.1)) = .ok made.1 :=
    load_file reads (by rw [path]; exact place_freshWith _)
  rw [play, List.foldl_append]
  change play here (play here _ (alone algorithm.name entropy)) _ = _
  rw [play_alone_fresh here path]
  simp [play, step, Creation.turn, Creation.tested, there, loaded, made, Except.map]

theorem creation_kept_again :
    let here : LocalKey := ⟨⟨"", ["keys", "key.pem"]⟩, .sha256, .standard⟩
    let events :=
      alone KeyAlgorithm.ed25519.name ⟨[1], 0⟩ ++
      [.begin KeyAlgorithm.ed25519.name ⟨[2], 0⟩, .test 1]
    let known := (KeyAlgorithm.ed25519.generate ⟨[1], 0⟩).1.publicKey
    let last := play here ⟨.fresh, []⟩ events
    Begins here events ∧ Undisturbed here .fresh events ∧
      last.calls.map Creation.stage = [.ended (.ok known), .ended (.ok known)] ∧
        Stores here last.files known := by
  intro here events known last
  have begins : Begins here events := by
    intro algorithm entropy member
    simp only [events, alone, List.cons_append, List.nil_append, List.mem_cons,
      CreationEvent.begin.injEq, reduceCtorEq, List.not_mem_nil, or_false, false_or] at member
    rcases member with ⟨rfl, rfl⟩ | ⟨rfl, rfl⟩
    · exact readable_ed25519 rfl _
    · exact readable_ed25519 rfl _
  have first := play_alone_fresh here rfl .ed25519 ⟨[1], 0⟩
  have both :=
    play_again here rfl ((PrivateKey.ofPem_toPem _).trans (PrivateKey.read_write_generate ⟨[1], 0⟩))
    KeyAlgorithm.ed25519.name ⟨[2], 0⟩
  have undisturbed : Undisturbed here .fresh events := by
    intro n i tests
    match n with
    | 0 | 2 | 3 | 4 | 5 => cases tests
    | 1 => simp [events, alone, play, step, Stage.pending]
    | 6 =>
      have taken : events.take 6 =
          alone KeyAlgorithm.ed25519.name ⟨[1], 0⟩ ++
            [.begin KeyAlgorithm.ed25519.name ⟨[2], 0⟩] := rfl
      rw [taken, play_concat, first]
      simp [step, Stage.pending]
    | n + 7 => cases tests
  have kept (location : Location) : last.files.place here.path ≠ .ok (.device location) := by
    have files : last.files = freshWith _ := congrArg Creations.files both
    rw [files, place_freshWith]
    nofun
  have calls : last.calls = [⟨KeyAlgorithm.ed25519.name, _, .ended (.ok known)⟩,
      ⟨KeyAlgorithm.ed25519.name, ⟨[2], 0⟩, .ended (.ok known)⟩] := congrArg Creations.calls both
  have second : last.calls[1]? = some ⟨KeyAlgorithm.ed25519.name, ⟨[2], 0⟩,
      .ended (.ok known)⟩ := by
    rw [calls]
    rfl
  obtain ⟨-, -, all⟩ := creation_kept here .fresh events begins
  refine ⟨begins, undisturbed, by rw [calls]; rfl, ?_⟩
  exact all undisturbed kept 1 _ known second rfl

/-- Two calls look for the file before either writes. -/
def crossing (first second : KeyAlgorithm) (early late : Entropy) : List CreationEvent :=
  [.begin first.name early, .begin second.name late, .test 0, .test 1, .generate 0, .write 0,
    .answer 0, .generate 1, .write 1, .answer 1]

private theorem play_crossing (here : LocalKey) (path : here.path = ⟨"", ["keys", "key.pem"]⟩)
    (first second : KeyAlgorithm) (early late : Entropy) :
    let kept := here.suite.generate first early
    let made := here.suite.generate second late
    play here ⟨.fresh, []⟩ (crossing first second early late) =
      ⟨(freshWith (here.suite.write kept.1)).put ["tmp", "work", "keys", "key.pem"]
          (.file (here.suite.write made.1) 0o600),
        [⟨first.name, kept.2, .ended (.ok (here.suite.publicOf kept.1))⟩,
          ⟨second.name, made.2, .ended (.ok (here.suite.publicOf made.1))⟩]⟩ := by
  intro kept made
  have absent : FileTree.fresh.exists? here.path = .ok false := by rw [path]; exact absent_fresh
  have rewritten (content : Bytes) (key : PrivateKey) : here.store (freshWith content) key =
      (none, (freshWith content).put ["tmp", "work", "keys", "key.pem"]
        (.file (here.suite.write key) 0o600)) := by
    rw [store, path]
    rfl
  simp [crossing, play, step, Creation.turn, Creation.tested, Creation.generated,
    Creation.written, absent, KeyAlgorithm.ofName?_name, store_fresh path, rewritten, kept, made]

/-- Of two calls that both find nothing the first one's key is lost: it was handed out, and
another one stands there. -/
theorem creation_lost :
    let here : LocalKey := ⟨⟨"", ["keys", "key.pem"]⟩, .sha256, .standard⟩
    let early := (KeyAlgorithm.ecdsaP256.generate ⟨[1], 0⟩).1.publicKey
    let late := (KeyAlgorithm.ed25519.generate ⟨[2], 0⟩).1.publicKey
    let last := play here ⟨.fresh, []⟩ (crossing .ecdsaP256 .ed25519 ⟨[1], 0⟩ ⟨[2], 0⟩)
    FileTree.fresh.exists? here.path = .ok false ∧
      last.calls.map Creation.stage = [.ended (.ok early), .ended (.ok late)] ∧
      Stores here last.files late ∧ ¬ Stores here last.files early := by
  intro here early late last
  have played := play_crossing here rfl .ecdsaP256 .ed25519 ⟨[1], 0⟩ ⟨[2], 0⟩
  have reads : here.suite.read (here.suite.write (KeyAlgorithm.ed25519.generate ⟨[2], 0⟩).1) =
      .ok (KeyAlgorithm.ed25519.generate ⟨[2], 0⟩).1 :=
    (PrivateKey.ofPem_toPem _).trans (PrivateKey.read_write_generate _)
  have loaded : here.load last.files = .ok (KeyAlgorithm.ed25519.generate ⟨[2], 0⟩).1 := by
    have files : last.files = _ := congrArg Creations.files played
    rw [files]
    exact load_file reads (FileTree.place_put (place_freshWith _) rfl)
  refine ⟨absent_fresh, congrArg (·.calls.map Creation.stage) played, ⟨_, rfl, loaded⟩, ?_⟩
  rintro ⟨key, half, stored⟩
  rw [loaded] at stored
  obtain rfl := Except.ok.inj stored
  have kinds : late.kind = early.kind := congrArg PublicKey.kind half
  simp only [late, early, PrivateKey.kind_publicKey, KeyAlgorithm.kind_generate] at kinds
  cases kinds

end Creations
end LocalKey
end SignerPlugin
