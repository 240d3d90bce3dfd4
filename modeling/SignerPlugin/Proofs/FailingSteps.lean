import Mathlib.Data.List.Forall2

/-! Steps that can fail. A step comes out well, or fails with a fault; of several the first that
fails decides. -/

namespace SignerPlugin

variable {α β ε : Type} {f : α → Except ε β} {xs : List α}

theorem map_eq_ok {outcome : Except ε α} {g : α → β} {made : β} :
    outcome.map g = .ok made ↔ ∃ value, outcome = .ok value ∧ g value = made := by
  cases outcome <;> simp [Except.map]

theorem map_eq_error {outcome : Except ε α} {g : α → β} {fault : ε} :
    outcome.map g = .error fault ↔ outcome = .error fault := by
  cases outcome <;> simp [Except.map]

theorem mapError_eq_ok {δ : Type} {outcome : Except ε α} {g : ε → δ} {value : α} :
    outcome.mapError g = .ok value ↔ outcome = .ok value := by
  cases outcome <;> simp [Except.mapError]

theorem mapError_eq_error {δ : Type} {outcome : Except ε α} {g : ε → δ} {fault : δ} :
    outcome.mapError g = .error fault ↔ ∃ cause, outcome = .error cause ∧ g cause = fault := by
  cases outcome <;> simp [Except.mapError]

theorem pure_eq_ok {value made : α} : (pure value : Except ε α) = .ok made ↔ value = made := by
  simp [pure, Except.pure]

theorem bind_eq_ok {outcome : Except ε α} {next : α → Except ε β} {made : β} :
    outcome >>= next = .ok made ↔ ∃ value, outcome = .ok value ∧ next value = .ok made := by
  cases outcome <;> simp [bind, Except.bind]

/-- The first of two steps that fails is what fails. -/
theorem bind_eq_error {outcome : Except ε α} {next : α → Except ε β} {fault : ε} :
    outcome >>= next = .error fault ↔
      outcome = .error fault ∨ ∃ value, outcome = .ok value ∧ next value = .error fault := by
  cases outcome <;> simp [bind, Except.bind]

/-- All steps come out well if each one does. -/
theorem mapM_eq_ok {ys : List β} :
    xs.mapM f = .ok ys ↔ List.Forall₂ (fun x y => f x = .ok y) xs ys := by
  induction xs generalizing ys with
  | nil =>
    rw [List.mapM_nil, List.forall₂_nil_left_iff, pure_eq_ok]
    exact eq_comm
  | cons x xs ih =>
    simp only [List.mapM_cons, List.forall₂_cons_left_iff, bind_eq_ok, pure_eq_ok, ih]
    constructor
    · rintro ⟨y, first, others, later, rfl⟩
      exact ⟨y, others, first, later, rfl⟩
    · rintro ⟨y, others, first, later, rfl⟩
      exact ⟨y, first, others, later, rfl⟩

theorem exists_of_mapM {ys : List β} {x : α} (made : xs.mapM f = .ok ys) (among : x ∈ xs) :
    ∃ y, f x = .ok y := by
  have each := mapM_eq_ok.mp made
  clear made
  induction each with
  | nil => cases among
  | cons first _ ih =>
    rcases List.mem_cons.mp among with rfl | later
    · exact ⟨_, first⟩
    · exact ih later

/-- Steps fail as the first of them does that fails. -/
theorem mapM_eq_error {e : ε} : xs.mapM f = .error e ↔
    ∃ before x after, xs = before ++ x :: after ∧ (∀ other ∈ before, ∃ y, f other = .ok y) ∧
      f x = .error e := by
  induction xs with
  | nil =>
    refine ⟨nofun, fun ⟨before, x, after, parts, _⟩ => ?_⟩
    simp at parts
  | cons x xs ih =>
    have passes (ys : List β) (y : β) : (pure (y :: ys) : Except ε (List β)) ≠ .error e := nofun
    simp only [List.mapM_cons, bind_eq_error, ih, passes, and_false, exists_false, or_false]
    constructor
    · rintro (failed | ⟨y, first, before, z, after, rfl, passed, failed⟩)
      · exact ⟨[], x, xs, rfl, nofun, failed⟩
      · exact ⟨x :: before, z, after, rfl, List.forall_mem_cons.mpr ⟨⟨y, first⟩, passed⟩, failed⟩
    · rintro ⟨before, z, after, parts, passed, failed⟩
      cases before with
      | nil =>
        obtain ⟨rfl, -⟩ := List.cons.inj parts
        exact .inl failed
      | cons first others =>
        obtain ⟨rfl, rfl⟩ := List.cons.inj parts
        obtain ⟨⟨y, first⟩, passed⟩ := List.forall_mem_cons.mp passed
        exact .inr ⟨y, first, others, z, after, rfl, passed, failed⟩

theorem mapM_congr {g : α → Except ε β} (same : ∀ x ∈ xs, f x = g x) : xs.mapM f = xs.mapM g := by
  induction xs with
  | nil => rfl
  | cons x xs ih =>
    rw [List.mapM_cons, List.mapM_cons, same x List.mem_cons_self,
      ih fun y among => same y (List.mem_cons_of_mem _ among)]

end SignerPlugin
