import SignerPlugin.CallContext.Scope
import SignerPlugin.Proofs.WorkUnderContext

/-! Runs under one context, whatever the order of events. What a step can do is said once, by
`Turn` for one run and by `Steps` for the scope; everything else is by induction on the
history of a scope. -/

namespace SignerPlugin.CallContext

variable {α : Type} {i : Nat}

/-- The run that an event is about, if it is about one. -/
def Event.run? : Event α → Option Nat
  | .start i => some i
  | .finish i _ => some i
  | .cancelCaller i => some i
  | .wake i => some i
  | .stop i => some i
  | .settle i => some i
  | _ => none

def Event.isStart (i : Nat) : Event α → Bool
  | .start j => i == j
  | _ => false

def Event.isWake (i : Nat) : Event α → Bool
  | .wake j => i == j
  | _ => false

namespace Scope

variable {first scope after last : Scope α} {run run' : Run α} {event : Event α}
  {events more : List (Event α)}

/-- What an event about a run makes of it. -/
inductive Turn (scope : Scope α) (i : Nat) (run : Run α) : Event α → Run α → Prop
  | start (idle : run.task = .idle) (waits : run.phase = .waiting) :
      Turn scope i run (.start i) { run with task := .running }
  | finish {outcome : α} (runs : run.task = .running) :
      Turn scope i run (.finish i outcome) { run with task := .finished outcome }
  | cancelCaller (lasts : ∀ ending, run.phase ≠ .ended ending) :
      Turn scope i run (.cancelCaller i) { run with abandoned := true }
  | withdraw (waits : run.phase = .waiting) (left : run.abandoned = true) :
      Turn scope i run (.wake i) { run with phase := .withdrawing }
  | outcome {value : α} (waits : run.phase = .waiting) (kept : run.abandoned = false)
      (finished : run.task = .finished value) :
      Turn scope i run (.wake i) { run with phase := .ended (.outcome value) }
  | giveUp (waits : run.phase = .waiting) (kept : run.abandoned = false)
      (unfinished : ∀ value, run.task ≠ .finished value)
      (done : run.signalled = true ∨ scope.isOver = true) :
      Turn scope i run (.wake i) { run with phase := .stopping }
  | stop (told : run.phase.stops = true) (lasts : run.task.hasEnded = false) :
      Turn scope i run (.stop i) { run with task := .cancelled run.task.begun }
  | withdrawn (told : run.phase = .withdrawing) (ended : run.task.hasEnded = true) :
      Turn scope i run (.settle i) { run with phase := .ended .abandoned }
  | leave (told : run.phase = .stopping) (ended : run.task.hasEnded = true)
      (left : run.abandoned = true) :
      Turn scope i run (.settle i) { run with phase := .ended .abandoned }
  | stopped (told : run.phase = .stopping) (ended : run.task.hasEnded = true)
      (kept : run.abandoned = false) :
      Turn scope i run (.settle i) { run with phase := .ended (.error scope.reason) }

private theorem Turn.of_wake (waits : run.phase = .waiting) (woken : scope.wake run = some run') :
    Turn scope i run (.wake i) run' := by
  unfold wake at woken
  by_cases left : run.abandoned = true
  · rw [if_pos left] at woken
    cases woken
    exact .withdraw waits left
  · rw [if_neg left] at woken
    have kept := Bool.eq_false_iff.mpr left
    split at woken
    · cases woken
      exact .outcome waits kept ‹_›
    · obtain ⟨done, same⟩ := Option.ite_none_right_eq_some.mp woken
      cases same
      exact .giveUp waits kept ‹_› ((Bool.or_eq_true _ _).mp done)

theorem Turn.of_turn (about : event.run? = some i) (turned : scope.turn run event = some run') :
    Turn scope i run event run' := by
  cases event with
  | enter => cases about
  | cancel => cases about
  | tick duration => cases about
  | start j =>
    cases about
    simp only [turn] at turned
    split at turned
    · cases turned
      exact .start ‹_› ‹_›
    · cases turned
  | finish j outcome =>
    cases about
    simp only [turn] at turned
    split at turned
    · cases turned
      exact .finish ‹_›
    · cases turned
  | cancelCaller j =>
    cases about
    simp only [turn] at turned
    split at turned
    · cases turned
    · cases turned
      exact .cancelCaller ‹_›
  | wake j =>
    cases about
    simp only [turn] at turned
    split at turned
    · exact .of_wake ‹_› turned
    · cases turned
  | stop j =>
    cases about
    obtain ⟨possible, same⟩ := Option.ite_none_right_eq_some.mp turned
    cases same
    rw [Bool.and_eq_true, Bool.not_eq_true'] at possible
    exact .stop possible.1 possible.2
  | settle j =>
    cases about
    obtain ⟨ended, turned⟩ := Option.ite_none_right_eq_some.mp turned
    cases told : run.phase with
    | withdrawing =>
      rw [told] at turned
      cases turned
      exact .withdrawn told ended
    | stopping =>
      rw [told] at turned
      by_cases left : run.abandoned = true
      · rw [if_pos left] at turned
        cases turned
        exact .leave told ended left
      · rw [if_neg left] at turned
        cases turned
        exact .stopped told ended (Bool.eq_false_iff.mpr left)
    | _ =>
      rw [told] at turned
      cases turned

private theorem Turn.run?_event (turned : Turn scope i run event run') : event.run? = some i := by
  cases turned <;> rfl

theorem Turn.signalled_eq (turned : Turn scope i run event run') :
    run'.signalled = run.signalled := by
  cases turned <;> rfl

theorem Turn.waits (turned : Turn scope i run event run') (waits : run'.phase.waits = true) :
    run.phase.waits = true := by
  cases turned with
  | withdraw waiting left => rw [waiting, Phase.waits]
  | outcome _ _ _ => cases waits
  | giveUp _ _ _ _ => cases waits
  | withdrawn _ _ => cases waits
  | leave _ _ _ => cases waits
  | stopped _ _ _ => cases waits
  | _ => exact waits

/-- What a step makes of a scope. -/
inductive Steps (scope : Scope α) : Event α → Scope α → Prop
  | refuse {reason : ContextError} (done : scope.context.err? scope.now = some reason) :
      Steps scope .enter { scope with runs := scope.runs ++ [{ phase := .ended (.error reason) }] }
  | enter (live : scope.context.err? scope.now = none) :
      Steps scope .enter
        { scope with runs := scope.runs ++ [{}], waiters := scope.waiters ++ [scope.runs.length] }
  | cancel (live : scope.context.cancelled = false) :
      Steps scope .cancel
        { scope with
          context := scope.context.cancel
          runs := scope.runs.mapIdx scope.signal }
  | cancelAgain (before : scope.context.cancelled = true) : Steps scope .cancel scope
  | tick (duration : Nat) : Steps scope (.tick duration) { scope with now := scope.now + duration }
  | turn {i : Nat} {run run' : Run α} {event : Event α} (found : scope.runs[i]? = some run)
      (turned : Turn scope i run event run') : Steps scope event (scope.setRun i run')

private theorem Steps.of_about (about : event.run? = some i)
    (stepped : (do
      let run ← scope.runs[i]?
      return scope.setRun i (← scope.turn run event)) = some after) : Steps scope event after := by
  obtain ⟨run, found, stepped⟩ := Option.bind_eq_some_iff.mp stepped
  obtain ⟨run', turned, same⟩ := Option.bind_eq_some_iff.mp stepped
  cases same
  exact .turn found (.of_turn about turned)

theorem Steps.of_step (stepped : scope.step event = some after) : Steps scope event after := by
  cases event with
  | enter =>
    cases stepped
    unfold Scope.enter
    split
    · exact .refuse ‹_›
    · exact .enter ‹_›
  | cancel =>
    cases stepped
    unfold Scope.cancel
    split
    · exact .cancelAgain ‹_›
    · exact .cancel (Bool.eq_false_iff.mpr ‹_›)
  | tick duration =>
    cases stepped
    exact .tick duration
  | _ => exact .of_about rfl stepped

/-! ### The context -/

theorem Steps.now_le (steps : Steps scope event after) : scope.now ≤ after.now := by
  cases steps with
  | tick duration => exact Int.le_add_of_nonneg_right (Int.natCast_nonneg duration)
  | _ => exact Int.le_refl _

theorem Steps.context_cases (steps : Steps scope event after) :
    after.context = scope.context ∨ after.context = scope.context.cancel := by
  cases steps with
  | cancel live => exact .inr rfl
  | _ => exact .inl rfl

theorem Steps.done (steps : Steps scope event after)
    (done : (scope.context.err? scope.now).isSome = true) :
    (after.context.err? after.now).isSome = true := by
  rcases steps.context_cases with same | cancelled
  · rw [Option.isSome_iff_ne_none] at done ⊢
    intro live
    rw [same] at live
    exact done (err?_earlier steps.now_le live)
  · rw [cancelled, err?_cancel]
    rfl

theorem err?_eq_canceled {ctx : CallContext} {now : Instant} :
    ctx.err? now = some .canceled ↔ ctx.cancelled = true := by
  unfold err?
  by_cases cancelled : ctx.cancelled = true
  · simp [cancelled]
  · cases ctx.remaining? now with
    | none => simp [cancelled]
    | some left => simp [cancelled]

theorem Steps.cancelled (steps : Steps scope event after)
    (cancelled : scope.context.cancelled = true) :
    after.context.cancelled = true := by
  rcases steps.context_cases with same | cancels
  · rw [same]
    exact cancelled
  · rw [cancels]
    rfl

private theorem done_of_isOver (passed : scope.isOver = true) :
    (scope.context.err? scope.now).isSome = true := by
  rw [Option.isSome_iff_ne_none]
  intro live
  unfold isOver at passed
  split at passed
  · have left := (err?_eq_none.mp live).2 _ ‹_›
    rw [decide_eq_true_eq] at passed
    omega
  · cases passed

/-! ### What holds of the runs at any time -/

/-- What holds of every run of a scope. -/
structure Fits (scope : Scope α) (run : Run α) : Prop where
  signalled : scope.context.cancelled = true → run.phase.waits = true → run.signalled = true
  cancelled : run.signalled = true → scope.context.cancelled = true
  done : run.phase = .stopping → (scope.context.err? scope.now).isSome = true

/-- What holds of a scope at any time. -/
structure Sound (scope : Scope α) : Prop where
  nodup : scope.waiters.Nodup
  waits : ∀ i, i ∈ scope.waiters ↔ ∃ run, scope.runs[i]? = some run ∧ run.phase.waits = true
  fits : ∀ run ∈ scope.runs, Fits scope run

theorem Sound.fresh (context : CallContext) (now : Instant) :
    Sound ({ context, now } : Scope α) where
  nodup := List.nodup_nil
  waits := by simp
  fits := by simp

theorem Fits.turn (fits : Fits scope run) (turned : Turn scope i run event run') :
    Fits scope run' where
  signalled cancelled waits := by
    rw [turned.signalled_eq]
    exact fits.signalled cancelled (turned.waits waits)
  cancelled signalled := by
    rw [turned.signalled_eq] at signalled
    exact fits.cancelled signalled
  done stopping := by
    cases turned with
    | giveUp _ _ _ done =>
      rcases done with signalled | passed
      · rw [err?_eq_canceled.mpr (fits.cancelled signalled)]
        rfl
      · exact done_of_isOver passed
    | withdraw _ _ => cases stopping
    | outcome _ _ _ => cases stopping
    | withdrawn _ _ => cases stopping
    | leave _ _ _ => cases stopping
    | stopped _ _ _ => cases stopping
    | _ => exact fits.done stopping

theorem Sound.setRun (sound : Sound scope) (found : scope.runs[i]? = some run)
    (turned : Turn scope i run event run') : Sound (scope.setRun i run') where
  nodup := by
    unfold Scope.setRun
    split
    · exact sound.nodup
    · exact sound.nodup.erase i
  waits j := by
    have place : i < scope.runs.length := (List.getElem?_eq_some_iff.mp found).1
    have erased : j ∈ scope.waiters.erase i ↔ j ≠ i ∧ j ∈ scope.waiters := sound.nodup.mem_erase_iff
    simp only [Scope.setRun, List.getElem?_set, place, if_true]
    by_cases same : i = j
    · subst same
      by_cases waits : run'.phase.waits = true
      · have waited : i ∈ scope.waiters := (sound.waits i).mpr ⟨run, found, turned.waits waits⟩
        simp [waits, waited]
      · simp [waits, erased]
    · have apart : j ≠ i := fun eq => same eq.symm
      by_cases waits : run'.phase.waits = true
      · simp [waits, same, sound.waits j]
      · simp [waits, same, erased, apart, sound.waits j]
  fits other member := by
    rcases List.mem_or_eq_of_mem_set member with old | rfl
    · obtain ⟨signalled, cancelled, done⟩ := sound.fits other old
      exact ⟨signalled, cancelled, done⟩
    · obtain ⟨signalled, cancelled, done⟩ :=
        (sound.fits run (List.mem_of_getElem? found)).turn turned
      exact ⟨signalled, cancelled, done⟩

/-- The runs after a new one has come. -/
theorem getElem?_push {runs : List (Run α)} {fresh run : Run α} :
    (runs ++ [fresh])[i]? = some run ↔ runs[i]? = some run ∨ i = runs.length ∧ fresh = run := by
  rcases Nat.lt_trichotomy i runs.length with before | rfl | behind
  · rw [List.getElem?_append_left before]
    have apart := Nat.ne_of_lt before
    simp [apart]
  · simp
  · have absent : runs[i]? = none := List.getElem?_eq_none (Nat.le_of_lt behind)
    have past : (runs ++ [fresh])[i]? = none := List.getElem?_eq_none (List.length_append ▸ behind)
    simp [absent, past, Nat.ne_of_gt behind]

theorem Fits.keep (fits : Fits scope run) (context : after.context = scope.context)
    (now : scope.now ≤ after.now) :
    Fits after run where
  signalled cancelled := fits.signalled (context ▸ cancelled)
  cancelled signalled := context ▸ fits.cancelled signalled
  done stopping := by
    have done := fits.done stopping
    rw [Option.isSome_iff_ne_none] at done ⊢
    intro live
    rw [context] at live
    exact done (err?_earlier now live)

theorem Sound.refuse (sound : Sound scope) (reason : ContextError) :
    Sound { scope with runs := scope.runs ++ [{ phase := .ended (.error reason) }] } where
  nodup := sound.nodup
  waits j := by
    rw [sound.waits j]
    constructor
    · rintro ⟨run, found, waits⟩
      exact ⟨run, getElem?_push.mpr (.inl found), waits⟩
    · rintro ⟨run, found, waits⟩
      rcases getElem?_push.mp found with old | ⟨rfl, rfl⟩
      · exact ⟨run, old, waits⟩
      · cases waits
  fits run member := by
    rcases List.mem_append.mp member with old | fresh
    · exact (sound.fits run old).keep rfl (Int.le_refl _)
    · obtain rfl := List.mem_singleton.mp fresh
      exact ⟨nofun, nofun, nofun⟩

theorem Sound.enter (sound : Sound scope) (live : scope.context.err? scope.now = none) :
    Sound
      { scope with
        runs := scope.runs ++ [{}]
        waiters := scope.waiters ++ [scope.runs.length] } where
  nodup := by
    refine List.nodup_append.mpr ⟨sound.nodup, List.pairwise_singleton .., ?_⟩
    intro j member k fresh same
    obtain ⟨run, found, -⟩ := (sound.waits j).mp member
    have place := (List.getElem?_eq_some_iff.mp found).1
    rw [same, List.mem_singleton.mp fresh] at place
    exact Nat.lt_irrefl _ place
  waits j := by
    rw [List.mem_append, sound.waits j, List.mem_singleton]
    constructor
    · rintro (⟨run, found, waits⟩ | rfl)
      · exact ⟨run, getElem?_push.mpr (.inl found), waits⟩
      · exact ⟨{}, getElem?_push.mpr (.inr ⟨rfl, rfl⟩), rfl⟩
    · rintro ⟨run, found, waits⟩
      rcases getElem?_push.mp found with old | ⟨rfl, rfl⟩
      · exact .inl ⟨run, old, waits⟩
      · exact .inr rfl
  fits run member := by
    rcases List.mem_append.mp member with old | fresh
    · exact (sound.fits run old).keep rfl (Int.le_refl _)
    · obtain rfl := List.mem_singleton.mp fresh
      refine ⟨fun cancelled => ?_, nofun, nofun⟩
      rw [(err?_eq_none.mp live).1] at cancelled
      cases cancelled

@[simp]
theorem signal_phase (scope : Scope α) (i : Nat) (run : Run α) :
    (scope.signal i run).phase = run.phase := by
  unfold signal
  split
  · rfl
  · rfl

@[simp]
theorem signal_task (scope : Scope α) (i : Nat) (run : Run α) :
    (scope.signal i run).task = run.task := by
  unfold signal
  split
  · rfl
  · rfl

private theorem signal_signalled (member : i ∈ scope.waiters) :
    (scope.signal i run).signalled = true := by
  have listed : scope.waiters.contains i = true := List.contains_iff_mem.mpr member
  rw [signal, if_pos listed]

private theorem signal_of_not_mem (absent : i ∉ scope.waiters) : scope.signal i run = run := by
  have unlisted : ¬ scope.waiters.contains i = true :=
    fun listed => absent (List.contains_iff_mem.mp listed)
  rw [signal, if_neg unlisted]

theorem Sound.cancel (sound : Sound scope) :
    Sound
      { scope with
        context := scope.context.cancel
        runs := scope.runs.mapIdx scope.signal } where
  nodup := sound.nodup
  waits j := by
    rw [sound.waits j, List.getElem?_mapIdx]
    cases scope.runs[j]? with
    | none => simp
    | some run => simp
  fits run member := by
    obtain ⟨i, place, rfl⟩ := List.mem_mapIdx.mp member
    refine ⟨fun _ waits => ?_, fun _ => rfl, fun _ => rfl⟩
    rw [signal_phase] at waits
    exact signal_signalled ((sound.waits i).mpr ⟨_, List.getElem?_eq_getElem place, waits⟩)

theorem Sound.step (sound : Sound scope) (steps : Steps scope event after) : Sound after := by
  cases steps with
  | refuse done => exact sound.refuse _
  | enter live => exact sound.enter live
  | cancel live => exact sound.cancel
  | cancelAgain before => exact sound
  | tick duration =>
    refine ⟨sound.nodup, sound.waits, fun run member => ?_⟩
    exact (sound.fits run member).keep rfl (Steps.tick duration).now_le
  | turn found turned => exact sound.setRun found turned

/-! ### Histories -/

/-- Events in their order, from a first scope to a last one: each could happen when its turn
came. -/
inductive History (first : Scope α) : List (Event α) → Scope α → Prop
  | nil : History first [] first
  | snoc {events : List (Event α)} {scope after : Scope α} {event : Event α}
      (before : History first events scope) (stepped : scope.step event = some after) :
      History first (events ++ [event]) after

theorem History.trans (history : History first events scope) (further : History scope more last) :
    History first (events ++ more) last := by
  induction further with
  | nil =>
    rw [List.append_nil]
    exact history
  | snoc before stepped ih =>
    rw [← List.append_assoc]
    exact ih.snoc stepped

theorem History.single (stepped : scope.step event = some after) : History scope [event] after :=
  History.nil.snoc stepped

/-- Events that can all happen when their turns come make a history. -/
theorem History.of_foldlM (ran : events.foldlM step first = some last) :
    History first events last := by
  induction events generalizing first with
  | nil =>
    cases ran
    exact .nil
  | cons event rest ih =>
    obtain ⟨after, stepped, ran⟩ := Option.bind_eq_some_iff.mp ran
    exact (History.single stepped).trans (ih ran)

/-- What is played has a history: the events that could not happen are left out of it. -/
theorem exists_history_play (first : Scope α) (events : List (Event α)) :
    ∃ effective, effective.Sublist events ∧ History first effective (first.play events) := by
  induction events generalizing first with
  | nil => exact ⟨[], .slnil, .nil⟩
  | cons event rest ih =>
    cases stepped : first.step event with
    | none =>
      obtain ⟨effective, kept, history⟩ := ih first
      refine ⟨effective, kept.cons event, ?_⟩
      simpa [play, stepped] using history
    | some after =>
      obtain ⟨effective, kept, history⟩ := ih after
      refine ⟨event :: effective, kept.cons_cons event, ?_⟩
      simpa [play, stepped] using (History.single stepped).trans history

theorem History.sound (history : History first events scope) (sound : Sound first) :
    Sound scope := by
  induction history with
  | nil => exact sound
  | snoc before stepped ih => exact ih.step (.of_step stepped)

theorem History.done (history : History first events scope)
    (done : (first.context.err? first.now).isSome = true) :
    (scope.context.err? scope.now).isSome = true := by
  induction history with
  | nil => exact done
  | snoc before stepped ih => exact (Steps.of_step stepped).done ih

theorem History.cancelled (history : History first events scope)
    (cancelled : first.context.cancelled = true) :
    scope.context.cancelled = true := by
  induction history with
  | nil => exact cancelled
  | snoc before stepped ih => exact (Steps.of_step stepped).cancelled ih

/-! ### What happens only once -/

variable {kind : Event α → Bool} {may : Task α → Phase α → Bool}

/-- How often something can still happen to the run in a place, of which it is known when it may. -/
def allowance (may : Task α → Phase α → Bool) : Option (Run α) → Nat
  | none => 1
  | some run => (may run.task run.phase).toNat

/-- Events of a kind use up what allows them, and nothing gives it back. -/
structure Spends (kind : Event α → Bool) (i : Nat) (may : Task α → Phase α → Bool) : Prop where
  about : ∀ event, kind event = true → event.run? = some i
  turn : ∀ {scope : Scope α} {run run' : Run α} {event : Event α}, Turn scope i run event run' →
    (kind event).toNat + (may run'.task run'.phase).toNat ≤ (may run.task run.phase).toNat

theorem allowance_le_one (run : Option (Run α)) : allowance may run ≤ 1 := by
  cases run with
  | none => exact Nat.le_refl 1
  | some run => exact Bool.toNat_le _

theorem allowance_push (runs : List (Run α)) (fresh : Run α) :
    allowance may (runs ++ [fresh])[i]? ≤ allowance may runs[i]? := by
  cases found : runs[i]? with
  | none => exact allowance_le_one _
  | some run =>
    have kept : (runs ++ [fresh])[i]? = some run := getElem?_push.mpr (.inl found)
    exact Nat.le_of_eq (congrArg (allowance may) kept)

theorem Spends.aside (spends : Spends kind i may) (event : Event α)
    (apart : event.run? ≠ some i) (left : Nat) :
    (kind event).toNat + left = left := by
  have other : kind event = false :=
    Bool.eq_false_iff.mpr fun same => apart (spends.about event same)
  rw [other, Bool.toNat_false, Nat.zero_add]

theorem Spends.step (spends : Spends kind i may) (steps : Steps scope event after) :
    (kind event).toNat + allowance may after.runs[i]? ≤ allowance may scope.runs[i]? := by
  have general : none ≠ some i := (Option.some_ne_none i).symm
  cases steps with
  | refuse done =>
    rw [spends.aside .enter general]
    exact allowance_push scope.runs _
  | enter live =>
    rw [spends.aside .enter general]
    exact allowance_push scope.runs _
  | cancel live =>
    rw [spends.aside .cancel general, List.getElem?_mapIdx]
    cases scope.runs[i]? with
    | none => exact Nat.le_refl _
    | some run => simp [allowance]
  | cancelAgain before => exact Nat.le_of_eq (spends.aside .cancel general _)
  | tick duration => exact Nat.le_of_eq (spends.aside (.tick duration) general _)
  | @turn j run run' event found turned =>
    have place : j < scope.runs.length := (List.getElem?_eq_some_iff.mp found).1
    by_cases same : j = i
    · subst same
      simp only [setRun, List.getElem?_set_self place, found]
      exact spends.turn turned
    · have apart : event.run? ≠ some i := by
        rw [turned.run?_event]
        exact fun eq => same (Option.some.inj eq)
      refine Nat.le_of_eq ?_
      rw [spends.aside event apart, setRun, List.getElem?_set_ne same]

theorem History.once (spends : Spends kind i may) (history : History first events scope) :
    events.countP kind + allowance may scope.runs[i]? ≤ 1 := by
  induction history with
  | nil => exact (Nat.zero_add _).symm ▸ allowance_le_one _
  | @snoc events scope after event before stepped ih =>
    have spent := spends.step (.of_step stepped)
    have counted : [event].countP kind = (kind event).toNat := by
      cases same : kind event <;> simp [same]
    rw [List.countP_append, counted]
    omega

theorem spends_start (i : Nat) : Spends (α := α) (Event.isStart i) i fun task _ => !task.begun where
  about event same := by
    cases event with
    | start j => exact congrArg some (beq_iff_eq.mp same).symm
    | _ => cases same
  turn turned := by
    cases turned with
    | start idle waits => simp [Event.isStart, idle, Task.begun]
    | finish runs => simp [Event.isStart, Task.begun]
    | stop told lasts => simp [Event.isStart, Task.begun]
    | _ => simp [Event.isStart]

private theorem spends_wake (i : Nat) : Spends (α := α) (Event.isWake i) i fun _ phase =>
  phase matches .waiting where
  about event same := by
    cases event with
    | wake j => exact congrArg some (beq_iff_eq.mp same).symm
    | _ => cases same
  turn turned := by
    cases turned with
    | withdraw waits left => simp [Event.isWake, waits]
    | outcome waits kept finished => simp [Event.isWake, waits]
    | giveUp waits kept unfinished done => simp [Event.isWake, waits]
    | _ => simp [Event.isWake]

/-! ### How runs end -/

/-- The scope as it stood when an event of a history came. -/
def Before (first : Scope α) (events : List (Event α)) (event : Event α) (scope : Scope α) : Prop :=
  ∃ earlier later, events = earlier ++ event :: later ∧ History first earlier scope

/-- How a run came to its end, and what has become of its task. -/
inductive Ends (first : Scope α) (events : List (Event α)) (i : Nat) : Task α → RunEnd α → Prop
  /-- The context was done when the run was entered. -/
  | refused {entered : Scope α} {reason : ContextError}
      (enters : Before first events .enter entered) (place : i = entered.runs.length)
      (done : entered.context.err? entered.now = some reason) :
      Ends first events i .idle (.error reason)
  /-- The task had finished when the run woke. -/
  | finished {woken : Scope α} {run : Run α} {value : α}
      (wakes : Before first events (.wake i) woken) (found : woken.runs[i]? = some run)
      (kept : run.abandoned = false) (finished : run.task = .finished value) :
      Ends first events i (.finished value) (.outcome value)
  /-- The cancellation of its caller woke the run. -/
  | withdrawn {woken : Scope α} {run : Run α} {task : Task α}
      (wakes : Before first events (.wake i) woken) (found : woken.runs[i]? = some run)
      (left : run.abandoned = true) (ended : task.hasEnded = true) :
      Ends first events i task .abandoned
  /-- The context was done before the task had finished. -/
  | stopped {woken settled : Scope α} {run run' : Run α} {task : Task α} {reason : ContextError}
      (wakes : Before first events (.wake i) woken) (found : woken.runs[i]? = some run)
      (kept : run.abandoned = false) (unfinished : ∀ value, run.task ≠ .finished value)
      (settles : Before first events (.settle i) settled)
      (found' : settled.runs[i]? = some run') (kept' : run'.abandoned = false)
      (ended : task.hasEnded = true) (done : settled.context.err? settled.now = some reason) :
      Ends first events i task (.error reason)
  /-- The cancellation of its caller met the run as it waited for its stopped task. -/
  | left {woken settled : Scope α} {run run' : Run α} {task : Task α}
      (wakes : Before first events (.wake i) woken) (found : woken.runs[i]? = some run)
      (kept : run.abandoned = false) (unfinished : ∀ value, run.task ≠ .finished value)
      (settles : Before first events (.settle i) settled)
      (found' : settled.runs[i]? = some run') (left : run'.abandoned = true)
      (ended : task.hasEnded = true) :
      Ends first events i task .abandoned

/-- What is known of a run from its phase. -/
inductive Standing (first : Scope α) (events : List (Event α)) (i : Nat) (run : Run α) : Prop
  | waiting (phase : run.phase = .waiting)
  | withdrawing {woken : Scope α} {earlier : Run α} (phase : run.phase = .withdrawing)
      (wakes : Before first events (.wake i) woken) (found : woken.runs[i]? = some earlier)
      (left : earlier.abandoned = true)
  | stopping {woken : Scope α} {earlier : Run α} (phase : run.phase = .stopping)
      (wakes : Before first events (.wake i) woken) (found : woken.runs[i]? = some earlier)
      (kept : earlier.abandoned = false) (unfinished : ∀ value, earlier.task ≠ .finished value)
  | ended {ending : RunEnd α} (phase : run.phase = .ended ending)
      (ends : Ends first events i run.task ending)

theorem Before.later (before : Before first events event scope) (last : Event α) :
    Before first (events ++ [last]) event scope := by
  obtain ⟨earlier, rest, rfl, history⟩ := before
  exact ⟨earlier, rest ++ [last], by simp, history⟩

theorem Before.now (history : History first events scope) (event : Event α) :
    Before first (events ++ [event]) event scope :=
  ⟨events, [], rfl, history⟩

theorem Ends.later {task : Task α} {ending : RunEnd α} (ends : Ends first events i task ending)
    (last : Event α) :
    Ends first (events ++ [last]) i task ending := by
  cases ends with
  | refused enters place done => exact .refused (enters.later last) place done
  | finished wakes found kept finished => exact .finished (wakes.later last) found kept finished
  | withdrawn wakes found left ended => exact .withdrawn (wakes.later last) found left ended
  | stopped wakes found kept unfinished settles found' kept' ended done =>
    exact .stopped (wakes.later last) found kept unfinished (settles.later last) found'
      kept' ended done
  | left wakes found kept unfinished settles found' left ended =>
    exact .left (wakes.later last) found kept unfinished (settles.later last) found' left ended

/-- The task of a run that has ended is not at work. -/
theorem Ends.task_ne_running {task : Task α} {ending : RunEnd α}
    (ends : Ends first events i task ending) :
    task ≠ .running := by
  rintro rfl
  cases ends with
  | withdrawn _ _ _ ended => cases ended
  | stopped _ _ _ _ _ _ _ ended _ => cases ended
  | left _ _ _ _ _ _ _ ended => cases ended

theorem Standing.later (standing : Standing first events i run) (last : Event α) :
    Standing first (events ++ [last]) i run := by
  cases standing with
  | waiting phase => exact .waiting phase
  | withdrawing phase wakes found left => exact .withdrawing phase (wakes.later last) found left
  | stopping phase wakes found kept unfinished =>
    exact .stopping phase (wakes.later last) found kept unfinished
  | ended phase ends => exact .ended phase (ends.later last)

/-- What is known of a run is known of any other in the same phase whose task has ended in the
same way. -/
theorem Standing.congr (standing : Standing first events i run) (phase : run'.phase = run.phase)
    (task : ∀ ending, run.phase = .ended ending → run'.task = run.task) :
    Standing first events i run' := by
  cases standing with
  | waiting same => exact .waiting (phase.trans same)
  | withdrawing same wakes found left => exact .withdrawing (phase.trans same) wakes found left
  | stopping same wakes found kept unfinished =>
    exact .stopping (phase.trans same) wakes found kept unfinished
  | ended same ends => exact .ended (phase.trans same) (task _ same ▸ ends)

theorem Standing.ends {ending : RunEnd α} (standing : Standing first events i run)
    (ended : run.phase = .ended ending) :
    Ends first events i run.task ending := by
  cases standing with
  | waiting phase => rw [phase] at ended; cases ended
  | withdrawing phase _ _ _ => rw [phase] at ended; cases ended
  | stopping phase _ _ _ _ => rw [phase] at ended; cases ended
  | ended phase ends =>
    rw [phase] at ended
    cases ended
    exact ends

theorem Standing.turn (standing : Standing first events i run)
    (history : History first events scope) (fits : Fits scope run)
    (found : scope.runs[i]? = some run) (turned : Turn scope i run event run') :
    Standing first (events ++ [event]) i run' := by
  have known := standing.later event
  have now : Before first (events ++ [event]) event scope := .now history event
  cases turned with
  | start idle waits => exact .waiting waits
  | finish runs =>
    exact known.congr rfl fun ending ended => absurd runs (standing.ends ended).task_ne_running
  | cancelCaller lasts => exact known.congr rfl fun ending ended => absurd ended (lasts ending)
  | withdraw waits left => exact .withdrawing rfl now found left
  | outcome waits kept finished => exact .ended rfl (finished ▸ .finished now found kept finished)
  | giveUp waits kept unfinished done => exact .stopping rfl now found kept unfinished
  | stop told lasts =>
    refine known.congr rfl fun ending ended => ?_
    rw [ended] at told
    cases told
  | withdrawn told ended =>
    cases known with
    | withdrawing phase wakes found' left => exact .ended rfl (.withdrawn wakes found' left ended)
    | waiting phase => rw [phase] at told; cases told
    | stopping phase _ _ _ _ => rw [phase] at told; cases told
    | ended phase _ => rw [phase] at told; cases told
  | leave told ended left =>
    cases known with
    | stopping phase wakes found' kept unfinished =>
      exact .ended rfl (.left wakes found' kept unfinished now found left ended)
    | waiting phase => rw [phase] at told; cases told
    | withdrawing phase _ _ _ => rw [phase] at told; cases told
    | ended phase _ => rw [phase] at told; cases told
  | stopped told ended kept' =>
    obtain ⟨reason, done⟩ := Option.isSome_iff_exists.mp (fits.done told)
    have named : scope.reason = reason := by rw [Scope.reason, done, Option.getD_some]
    cases known with
    | stopping phase wakes found' kept unfinished =>
      exact .ended rfl (.stopped wakes found' kept unfinished now found kept' ended (named ▸ done))
    | waiting phase => rw [phase] at told; cases told
    | withdrawing phase _ _ _ => rw [phase] at told; cases told
    | ended phase _ => rw [phase] at told; cases told

theorem History.standing {context : CallContext} {now : Instant}
    (history : History { context, now } events scope) (found : scope.runs[i]? = some run) :
    Standing { context, now } events i run := by
  induction history generalizing i run with
  | nil => cases found
  | @snoc events scope after event before stepped ih =>
    have sound := before.sound (.fresh context now)
    cases Steps.of_step stepped with
    | refuse done =>
      rcases getElem?_push.mp found with old | ⟨place, rfl⟩
      · exact (ih old).later _
      · exact .ended rfl (.refused (.now before _) place done)
    | enter live =>
      rcases getElem?_push.mp found with old | ⟨place, rfl⟩
      · exact (ih old).later _
      · exact .waiting rfl
    | cancel live =>
      rw [List.getElem?_mapIdx] at found
      obtain ⟨old, stood, rfl⟩ := Option.map_eq_some_iff.mp found
      exact ((ih stood).later _).congr (signal_phase ..) fun _ _ => signal_task ..
    | cancelAgain _ => exact (ih found).later _
    | tick duration => exact (ih found).later _
    | @turn j other other' event at' turned =>
      have place : j < scope.runs.length := (List.getElem?_eq_some_iff.mp at').1
      by_cases same : j = i
      · subst same
        rw [setRun, List.getElem?_set_self place] at found
        cases found
        exact (ih at').turn before (sound.fits other (List.mem_of_getElem? at')) at' turned
      · rw [setRun, List.getElem?_set_ne same] at found
        exact (ih found).later _

theorem Turn.lasts {ending : RunEnd α} (turned : Turn scope i run event run')
    (still : run.task ≠ .running) :
    run.phase ≠ .ended ending := by
  intro ended
  cases turned with
  | start _ waits => rw [ended] at waits; cases waits
  | finish runs => exact still runs
  | cancelCaller lasts => exact lasts ending ended
  | withdraw waits _ => rw [ended] at waits; cases waits
  | outcome waits _ _ => rw [ended] at waits; cases waits
  | giveUp waits _ _ _ => rw [ended] at waits; cases waits
  | stop told _ => rw [ended] at told; cases told
  | withdrawn told _ => rw [ended] at told; cases told
  | leave told _ _ => rw [ended] at told; cases told
  | stopped told _ _ => rw [ended] at told; cases told

/-- A run that has ended is left alone. -/
theorem Sound.keeps_ended {ending : RunEnd α} (sound : Sound scope)
    (steps : Steps scope event after) (found : scope.runs[i]? = some run)
    (ended : run.phase = .ended ending) (still : run.task ≠ .running) :
    after.runs[i]? = some run := by
  have absent : i ∉ scope.waiters := by
    intro member
    obtain ⟨waiter, same, waits⟩ := (sound.waits i).mp member
    obtain rfl := Option.some.inj (same.symm.trans found)
    rw [ended] at waits
    cases waits
  cases steps with
  | refuse done => exact getElem?_push.mpr (.inl found)
  | enter live => exact getElem?_push.mpr (.inl found)
  | cancel live => rw [List.getElem?_mapIdx, found, Option.map_some, signal_of_not_mem absent]
  | cancelAgain before => exact found
  | tick duration => exact found
  | @turn j other other' event at' turned =>
    by_cases same : j = i
    · subst same
      obtain rfl := Option.some.inj (at'.symm.trans found)
      exact absurd ended (turned.lasts still)
    · rw [Scope.setRun, List.getElem?_set_ne same]
      exact found

theorem History.keeps_ended {ending : RunEnd α} (history : History scope more last)
    (sound : Sound scope) (found : scope.runs[i]? = some run)
    (ended : run.phase = .ended ending) (still : run.task ≠ .running) :
    last.runs[i]? = some run := by
  induction history with
  | nil => exact found
  | snoc before stepped ih =>
    exact (before.sound sound).keeps_ended (.of_step stepped) ih ended still

/-- The wake-up of a run that was signalled is due. -/
theorem step_wake_isSome (found : scope.runs[i]? = some run) (waits : run.phase = .waiting)
    (signalled : run.signalled = true) : (scope.step (.wake i)).isSome = true := by
  have woken : (scope.wake run).isSome = true := by
    unfold wake
    by_cases left : run.abandoned = true
    · rw [if_pos left]
      rfl
    · rw [if_neg left]
      split
      · rfl
      · rw [if_pos (by rw [signalled, Bool.true_or])]
        rfl
  obtain ⟨woke, same⟩ := Option.isSome_iff_exists.mp woken
  simp [step, found, turn, waits, same]

/-- Runs under one context, after whatever events, and whatever comes then. A run that is
entered while the context is done ends with its error, and its task never starts. No task
starts twice, and no run wakes twice. A run that has ended stays as it is, and its task is not
at work: the run ended with the outcome of the task if that had finished when it woke, with
the cancellation of its caller if it was woken or met by that, and otherwise with the error of
the context. The runs that wait are exactly the waiters, and once the context is cancelled all
of them are signalled. A context that is done stays done, and a cancelled one stays
cancelled. -/
theorem runs_lawful {α : Type} (context : CallContext) (now : Instant) (events : List (Event α))
    (scope : Scope α) (history : History { context, now } events scope) :
    (∀ reason, scope.context.err? scope.now = some reason →
      ∃ after, scope.step .enter = some after ∧ ∀ more last, History after more last →
        last.runs[scope.runs.length]? = some { phase := .ended (.error reason) } ∧
        (events ++ .enter :: more).countP (Event.isStart scope.runs.length) = 0) ∧
    (∀ i, events.countP (Event.isStart i) ≤ 1 ∧ events.countP (Event.isWake i) ≤ 1) ∧
    (∀ i run ending, scope.runs[i]? = some run → run.phase = .ended ending →
      Ends { context, now } events i run.task ending ∧ run.task ≠ .running ∧
        ∀ more last, History scope more last → last.runs[i]? = some run) ∧
    (scope.waiters.Nodup ∧
      ∀ i, i ∈ scope.waiters ↔ ∃ run, scope.runs[i]? = some run ∧ run.phase.waits = true) ∧
    (scope.context.cancelled = true → ∀ i run, scope.runs[i]? = some run → run.phase.waits = true →
      run.signalled = true ∧ (run.phase = .waiting → (scope.step (.wake i)).isSome = true)) ∧
    ∀ more last, History scope more last →
      ((scope.context.err? scope.now).isSome = true → (last.context.err? last.now).isSome = true) ∧
      (scope.context.err? scope.now = some .canceled →
        last.context.err? last.now = some .canceled) := by
  have sound : Sound scope := history.sound (.fresh context now)
  refine ⟨?_, ?_, ?_, ⟨sound.nodup, sound.waits⟩, ?_, ?_⟩
  · intro reason done
    have stepped : scope.step .enter = some scope.enter := rfl
    refine ⟨scope.enter, stepped, ?_⟩
    intro more last further
    have found : scope.enter.runs[scope.runs.length]? =
        some { phase := .ended (.error reason) } := by
      rw [Scope.enter, done]
      exact getElem?_push.mpr (.inr ⟨rfl, rfl⟩)
    have kept := further.keeps_ended (sound.step (.of_step stepped)) found rfl nofun
    refine ⟨kept, ?_⟩
    have whole := history.trans ((History.single stepped).trans further)
    have once := whole.once (spends_start scope.runs.length)
    rw [kept] at once
    exact Nat.le_zero.mp (Nat.le_of_succ_le_succ once)
  · intro i
    have starts := history.once (spends_start i)
    have wakes := history.once (spends_wake i)
    exact ⟨by omega, by omega⟩
  · intro i run ending found ended
    have ends := (history.standing found).ends ended
    exact ⟨ends, ends.task_ne_running, fun more last further =>
      further.keeps_ended sound found ended ends.task_ne_running⟩
  · intro cancelled i run found waits
    have signalled := (sound.fits run (List.mem_of_getElem? found)).signalled cancelled waits
    exact ⟨signalled, fun waiting => step_wake_isSome found waiting signalled⟩
  · intro more last further
    refine ⟨further.done, ?_⟩
    simp only [err?_eq_canceled]
    exact further.cancelled

theorem runs_lawful_four :
    let first : Scope Nat := { context := .background, now := 0 }
    let events : List (Event Nat) :=
      [.enter, .start 0, .enter, .start 1, .enter, .start 2, .cancelCaller 1, .wake 1, .cancel,
        .finish 0 7, .wake 0, .wake 2, .stop 2, .stop 1, .settle 2, .settle 1, .enter]
    (∃ scope, History first events scope) ∧
      Ends first events 0 (.finished 7) (.outcome 7) ∧
      Ends first events 1 (.cancelled true) .abandoned ∧
      Ends first events 2 (.cancelled true) (.error .canceled) ∧
      Ends first events 3 .idle (.error .canceled) := by
  intro first events
  let scope : Scope Nat :=
    { context := CallContext.background.cancel
      now := 0
      runs := [{ task := .finished 7, phase := .ended (.outcome 7), signalled := true },
        { task := .cancelled true, phase := .ended .abandoned, signalled := true, abandoned := true },
        { task := .cancelled true, phase := .ended (.error .canceled), signalled := true },
        { phase := .ended (.error .canceled) }] }
  have history : History first events scope := .of_foldlM (by decide +kernel)
  obtain ⟨-, -, ends, -⟩ := runs_lawful .background 0 events scope history
  exact ⟨⟨scope, history⟩, (ends 0 _ _ rfl rfl).1, (ends 1 _ _ rfl rfl).1, (ends 2 _ _ rfl rfl).1,
    (ends 3 _ _ rfl rfl).1⟩

end Scope
end SignerPlugin.CallContext
