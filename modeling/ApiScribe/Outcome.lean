/-!
# Outcomes

Small facts about `Except` that the readers share, and of steps that also change a state: one step
followed by another ends as the first one fails, or as the second one does in the state that the
first leaves (`run_bind_eq_ok`, `run_bind_eq_error`).
-/

namespace ApiScribe.Outcome

variable {ε δ α β : Type}

/-- A mapped outcome succeeds exactly on an outcome that succeeds. -/
theorem map_eq_ok {f : α → β} {x : Except ε α} {b : β} :
    x.map f = .ok b ↔ ∃ a, x = .ok a ∧ f a = b := by
  cases x <;> simp [Except.map]

/-- A mapped outcome fails exactly as the outcome does. -/
theorem map_eq_error {f : α → β} {x : Except ε α} {e : ε} :
    x.map f = .error e ↔ x = .error e := by
  cases x <;> simp [Except.map]

/-- Other words for a failure do not change a success. -/
theorem mapError_eq_ok {f : ε → δ} {x : Except ε α} {a : α} :
    x.mapError f = .ok a ↔ x = .ok a := by
  cases x with
  | error e =>
    constructor <;>
    · intro h
      cases h
  | ok b =>
    constructor <;>
    · intro h
      cases h
      rfl

/-- Other words for a failure are those of the failure that there is. -/
theorem mapError_eq_error {f : ε → δ} {x : Except ε α} {d : δ} :
    x.mapError f = .error d ↔ ∃ e, x = .error e ∧ f e = d := by
  cases x with
  | error e =>
    constructor
    · intro h
      cases h
      exact ⟨e, rfl, rfl⟩
    · rintro ⟨e, h, rfl⟩
      cases h
      rfl
  | ok a =>
    constructor
    · intro h
      cases h
    · rintro ⟨e, h, -⟩
      cases h

/-- Other words for the failures of two steps. -/
theorem mapError_bind {g : ε → δ} {f : α → Except ε β} {x : Except ε α} :
    (x >>= f).mapError g = x.mapError g >>= fun a => (f a).mapError g := by
  cases x <;> rfl

theorem toOption_eq_some {x : Except ε α} {a : α} : x.toOption = some a ↔ x = .ok a := by
  cases x <;> simp [Except.toOption]

theorem ok_bind (a : α) (f : α → Except ε β) : (Except.ok a >>= f) = f a := rfl

/-- An outcome followed by a step succeeds exactly when both do. -/
theorem bind_eq_ok {f : α → Except ε β} {x : Except ε α} {b : β} :
    (x >>= f) = .ok b ↔ ∃ a, x = .ok a ∧ f a = .ok b := by
  cases x <;> simp [bind, Except.bind]

/-- An outcome followed by a step fails if it fails, or if the step does. -/
theorem bind_eq_error {f : α → Except ε β} {x : Except ε α} {e : ε} :
    (x >>= f) = .error e ↔ x = .error e ∨ ∃ a, x = .ok a ∧ f a = .error e := by
  cases x <;> simp [bind, Except.bind]

/-! ### Steps that change a state -/

section
variable {σ : Type} {x : ExceptT ε (StateM σ) α} {s s' s'' : σ}

theorem run_bind_of_ok {a : α} (hx : x.run.run s = (.ok a, s')) (f : α → ExceptT ε (StateM σ) β) :
    (x >>= f).run.run s = (f a).run.run s' := by
  rw [ExceptT.run_bind, StateT.run_bind, hx]
  rfl

theorem run_bind_of_error {e : ε} (hx : x.run.run s = (.error e, s'))
    (f : α → ExceptT ε (StateM σ) β) : (x >>= f).run.run s = (.error e, s') := by
  rw [ExceptT.run_bind, StateT.run_bind, hx]
  rfl

variable {f : α → ExceptT ε (StateM σ) β}

/-- Two steps succeed exactly when each does, the second after the first. -/
theorem run_bind_eq_ok {b : β} : (x >>= f).run.run s = (.ok b, s'') ↔
    ∃ a s', x.run.run s = (.ok a, s') ∧ (f a).run.run s' = (.ok b, s'') := by
  constructor
  · intro h
    rcases hx : x.run.run s with ⟨e | a, s'⟩
    · rw [run_bind_of_error hx] at h
      cases h
    · rw [run_bind_of_ok hx] at h
      exact ⟨a, s', rfl, h⟩
  · rintro ⟨a, s', hx, h⟩
    rw [run_bind_of_ok hx, h]

/-- Two steps fail in the first, or in the second after the first. -/
theorem run_bind_eq_error {e : ε} : (x >>= f).run.run s = (.error e, s'') ↔
    x.run.run s = (.error e, s'') ∨
      ∃ a s', x.run.run s = (.ok a, s') ∧ (f a).run.run s' = (.error e, s'') := by
  constructor
  · intro h
    rcases hx : x.run.run s with ⟨e' | a, s'⟩
    · rw [run_bind_of_error hx] at h
      cases h
      exact .inl rfl
    · rw [run_bind_of_ok hx] at h
      exact .inr ⟨a, s', rfl, h⟩
  · rintro (hx | ⟨a, s', hx, h⟩)
    · exact run_bind_of_error hx f
    · rw [run_bind_of_ok hx, h]

end

end ApiScribe.Outcome
