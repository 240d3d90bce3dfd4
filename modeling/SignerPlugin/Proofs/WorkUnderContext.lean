import SignerPlugin.CallContext

/-! When work under a context stops: at the first moment at which it has ended or the context
is done. -/

namespace SignerPlugin.CallContext

theorem err?_eq_none {ctx : CallContext} {now : Instant} :
    ctx.err? now = none ↔ ctx.cancelled = false ∧ ∀ left ∈ ctx.remaining? now, 0 < left := by
  unfold err?
  by_cases cancelled : ctx.cancelled
  · simp [cancelled]
  · cases ctx.remaining? now with
    | none => simp [cancelled]
    | some left => simp [cancelled]

/-- A context that is live was so before. -/
theorem err?_earlier {ctx : CallContext} {earlier later : Int} (order : earlier ≤ later)
    (live : ctx.err? later = none) : ctx.err? earlier = none := by
  obtain ⟨notCancelled, inTime⟩ := err?_eq_none.mp live
  refine err?_eq_none.mpr ⟨notCancelled, ?_⟩
  intro left known
  obtain ⟨deadline, set, rfl⟩ := Option.map_eq_some_iff.mp known
  have left := inTime (deadline.instant - later) (Option.map_eq_some_iff.mpr ⟨deadline, set, rfl⟩)
  omega

theorem remaining?_later (ctx : CallContext) (now : Instant) (elapsed : Nat) :
    ctx.remaining? (now + elapsed) = (ctx.remaining? now).map fun left :
      Int => left - (elapsed : Int) := by
  cases ctx with
  | mk deadline cancelled =>
    cases deadline with
    | none => rfl
    | some deadline =>
      simp only [remaining?, Option.map_some, Option.some.injEq]
      omega

namespace Work

variable {α : Type} {work : Work α} {ctx : CallContext} {now : Instant} {elapsed : Nat}

/-- Why the context is done some time after the work was started, if it is done by then. -/
def doneAfter (work : Work α) (ctx : CallContext) (now : Instant) (elapsed : Nat) :
    Option ContextError :=
  (work.contextAfter ctx elapsed).err? (now + elapsed)

/-- The first moment at which the work has ended or the context is done. -/
structure StopsAt (work : Work α) (ctx : CallContext) (now : Instant) (elapsed : Nat) : Prop where
  inTime : elapsed ≤ work.lasts
  cause : elapsed = work.lasts ∨ (work.doneAfter ctx now elapsed).isSome
  first : ∀ earlier < elapsed, work.doneAfter ctx now earlier = none

theorem StopsAt.unique {other : Nat} (stops : work.StopsAt ctx now elapsed)
    (stops' : work.StopsAt ctx now other) :
    elapsed = other := by
  have least {a b : Nat} (atA : work.StopsAt ctx now a) (atB : work.StopsAt ctx now b) :
      ¬ a < b := by
    intro before
    have live := atB.first a before
    rcases atA.cause with ended | done
    · have := atB.inTime
      omega
    · simp [live] at done
  have := least stops stops'
  have := least stops' stops
  omega

private theorem remaining?_contextAfter (later : Instant) :
    (work.contextAfter ctx elapsed).remaining? later = ctx.remaining? later := by
  unfold contextAfter
  split
  · split
    · rfl
    · rfl
  · rfl

/-- What comes of the work has no part in when it stops. -/
theorem StopsAt.withOutcome (stops : work.StopsAt ctx now elapsed) (outcome : α) :
    ({ work with outcome } : Work α).StopsAt ctx now elapsed :=
  ⟨stops.inTime, stops.cause, stops.first⟩

private theorem contextAfter_early (early : ∀ wait ∈ work.cancellation?, elapsed < wait) :
    work.contextAfter ctx elapsed = ctx := by
  unfold contextAfter
  cases known : work.cancellation? with
  | none => rfl
  | some wait => exact if_neg (Nat.not_le.mpr (early wait known))

private theorem contextAfter_late {wait : Nat} (known : work.cancellation? = some wait)
    (late : wait ≤ elapsed) :
    work.contextAfter ctx elapsed = ctx.cancel := by
  simp [contextAfter, known, late]

private theorem doneAfter_early (live : ctx.err? now = none)
    (early : ∀ wait ∈ work.cancellation?, elapsed < wait)
    (left : ∀ left ∈ ctx.remaining? now, elapsed < left.toNat) :
    work.doneAfter ctx now elapsed = none := by
  rw [doneAfter, contextAfter_early early, err?_eq_none, remaining?_later]
  refine ⟨(err?_eq_none.mp live).1, ?_⟩
  intro rest known
  obtain ⟨whole, same, rfl⟩ := Option.map_eq_some_iff.mp known
  have := left whole same
  omega

private theorem doneAfter_cancelled {wait : Nat} (known : work.cancellation? = some wait)
    (late : wait ≤ elapsed) :
    work.doneAfter ctx now elapsed = some .canceled := by
  rw [doneAfter, contextAfter_late known late, err?_cancel]

private theorem doneAfter_deadline {left : Int} (known : ctx.remaining? now = some left)
    (past : left.toNat ≤ elapsed) :
    (work.doneAfter ctx now elapsed).isSome := by
  rw [Option.isSome_iff_ne_none]
  intro live
  have rest := (err?_eq_none.mp live).2
  rw [remaining?_contextAfter, remaining?_later, known] at rest
  have := rest (left - (elapsed : Int)) rfl
  omega

/-- The duration is the least of the times after which the work ends, is cancelled or meets
the deadline. -/
theorem duration_least (work : Work α) (ctx : CallContext) (now : Instant) :
    work.duration ctx now ≤ work.lasts ∧
      (∀ wait ∈ work.cancellation?, work.duration ctx now ≤ wait) ∧
      (∀ left ∈ ctx.remaining? now, work.duration ctx now ≤ left.toNat) ∧
      (work.duration ctx now = work.lasts ∨ work.cancellation? = some (work.duration ctx now) ∨
        ∃ left, ctx.remaining? now = some left ∧ left.toNat = work.duration ctx now) := by
  unfold duration
  cases work.cancellation? with
  | none =>
    cases ctx.remaining? now with
    | none => simp
    | some left =>
      simp
      omega
  | some wait =>
    cases ctx.remaining? now with
    | none =>
      simp
      omega
    | some left =>
      simp
      omega

/-- Work that starts under a live context stops after its duration. -/
theorem duration_stopsAt (work : Work α) (live : ctx.err? now = none) :
    work.StopsAt ctx now (work.duration ctx now) := by
  obtain ⟨inTime, beforeCancel, beforeDeadline, reached⟩ := work.duration_least ctx now
  refine ⟨inTime, ?_, ?_⟩
  · rcases reached with ended | cancelled | ⟨left, known, past⟩
    · exact .inl ended
    · rw [doneAfter_cancelled cancelled (Nat.le_refl _)]
      exact .inr rfl
    · exact .inr (doneAfter_deadline known (Nat.le_of_eq past))
  · intro earlier before
    refine doneAfter_early live (fun wait known => ?_) (fun left known => ?_)
    · exact Nat.lt_of_lt_of_le before (beforeCancel wait known)
    · exact Nat.lt_of_lt_of_le before (beforeDeadline left known)

end Work

variable {α : Type} {ctx : CallContext} {now : Instant}

/-- Performed work stops at its first stopping moment. The caller sees its outcome if it has
ended by then, and otherwise why the context is done. -/
theorem perform_stops (work : Work α) (live : ctx.err? now = none) :
    ∃ elapsed, work.StopsAt ctx now elapsed ∧
      (ctx.perform now work).2 = (work.contextAfter ctx elapsed, now + elapsed) ∧
      ((ctx.perform now work).1.result = .ok work.outcome ∧ elapsed = work.lasts ∨
        ∃ reason, (ctx.perform now work).1.result = .error reason ∧
          work.doneAfter ctx now elapsed = some reason) := by
  have stops := work.duration_stopsAt live
  refine ⟨work.duration ctx now, stops, ?_⟩
  unfold perform
  rw [live]
  by_cases ended : work.duration ctx now = work.lasts
  · simp only [ended, if_true]
    exact ⟨trivial, .inl ⟨rfl, trivial⟩⟩
  · obtain ⟨reason, done⟩ := Option.isSome_iff_exists.mp (stops.cause.resolve_left ended)
    simp only [ended, if_false]
    refine ⟨trivial, .inr ⟨reason, ?_, done⟩⟩
    rw [Work.doneAfter] at done
    rw [done]
    rfl

end SignerPlugin.CallContext
