import Mathlib.Data.List.Forall2
import ApiScribe.Outcome

/-!
# Steps for each item of a list

A step for each item that may fail: all steps succeed with their results in order
(`Outcome.mapM_eq_ok`), or the first one that fails decides (`Outcome.mapM_eq_error`,
`Outcome.foldlM_eq_error`).
-/

namespace ApiScribe

variable {α β : Type} {R : α → β → Prop} {as : List α}

/-- Items related to those of a list exist exactly if there is one for each. -/
theorem exists_forall₂_iff : (∃ bs, List.Forall₂ R as bs) ↔ ∀ a ∈ as, ∃ b, R a b := by
  induction as with
  | nil => simp
  | cons a as ih =>
    rw [List.forall_mem_cons, ← ih]
    constructor
    · rintro ⟨_, h⟩
      obtain ⟨b, bs, hb, hbs, rfl⟩ := List.forall₂_cons_left_iff.1 h
      exact ⟨⟨b, hb⟩, ⟨bs, hbs⟩⟩
    · rintro ⟨⟨b, hb⟩, ⟨bs, hbs⟩⟩
      exact ⟨b :: bs, .cons hb hbs⟩

theorem exists_of_mem_forall₂ {bs : List β} {b : β} (h : List.Forall₂ R as bs) (hb : b ∈ bs) :
    ∃ a ∈ as, R a b := by
  induction h with
  | nil => cases hb
  | @cons a b' as bs hab _ ih =>
    rcases List.mem_cons.1 hb with rfl | hb
    · exact ⟨a, List.mem_cons_self, hab⟩
    · obtain ⟨a', ha', hr⟩ := ih hb
      exact ⟨a', List.mem_cons_of_mem _ ha', hr⟩

/-- What holds of one of the related items holds of one of the items. -/
theorem exists_mem_forall₂_iff {bs : List β} {P : β → Prop} {Q : α → Prop}
    (h : List.Forall₂ R as bs) (hpq : ∀ a b, R a b → (P b ↔ Q a)) :
    (∃ b ∈ bs, P b) ↔ ∃ a ∈ as, Q a := by
  induction h with
  | nil => simp
  | cons hab _ ih => rw [List.exists_mem_cons_iff, List.exists_mem_cons_iff, hpq _ _ hab, ih]

/-- The first item of a list that counts is its first item, or the first one after that. -/
theorem exists_first_cons_iff {P Q : α → Prop} {x : α} :
    (∃ before a after, x :: as = before ++ a :: after ∧ (∀ y ∈ before, P y) ∧ Q a) ↔
      Q x ∨ P x ∧ ∃ before a after, as = before ++ a :: after ∧ (∀ y ∈ before, P y) ∧ Q a := by
  constructor
  · rintro ⟨before, a, after, h, hbefore, ha⟩
    cases before with
    | nil =>
      cases h
      exact .inl ha
    | cons y before =>
      cases h
      obtain ⟨hx, hbefore⟩ := List.forall_mem_cons.1 hbefore
      exact .inr ⟨hx, before, a, after, rfl, hbefore, ha⟩
  · rintro (hx | ⟨hx, before, a, after, rfl, hbefore, ha⟩)
    · exact ⟨[], x, as, rfl, List.forall_mem_nil _, hx⟩
    · exact ⟨x :: before, a, after, rfl, List.forall_mem_cons.2 ⟨hx, hbefore⟩, ha⟩

namespace Outcome

variable {ε : Type} {f : α → Except ε β}

/-- A step for each item succeeds if the steps do, with their results in order. -/
theorem mapM_eq_ok {bs : List β} :
    as.mapM f = .ok bs ↔ List.Forall₂ (fun a b => f a = .ok b) as bs := by
  induction as generalizing bs with
  | nil =>
    rw [List.mapM_nil, List.forall₂_nil_left_iff]
    constructor
    · intro h
      cases h
      rfl
    · rintro rfl
      rfl
  | cons a as ih =>
    rw [List.mapM_cons, bind_eq_ok, List.forall₂_cons_left_iff]
    constructor
    · rintro ⟨b, hb, h⟩
      obtain ⟨bs, hbs, h⟩ := bind_eq_ok.1 h
      cases h
      exact ⟨b, bs, hb, ih.1 hbs, rfl⟩
    · rintro ⟨b, bs, hb, hbs, rfl⟩
      exact ⟨b, hb, bind_eq_ok.2 ⟨bs, ih.2 hbs, rfl⟩⟩

/-- A step for each item fails as the first one that does. -/
theorem mapM_eq_error {e : ε} :
    as.mapM f = .error e ↔ ∃ before a after, as = before ++ a :: after ∧
      (∀ x ∈ before, ∃ b, f x = .ok b) ∧ f a = .error e := by
  induction as with
  | nil =>
    constructor
    · intro h
      cases h
    · rintro ⟨before, a, after, h, -⟩
      cases before <;> cases h
  | cons a as ih =>
    -- what follows the steps puts their results together, which never fails
    have hrest (b : β) : (as.mapM f >>= fun bs => pure (b :: bs)) = .error e ↔
        as.mapM f = .error e := by
      cases as.mapM f <;> simp [bind, Except.bind, pure, Except.pure]
    rw [List.mapM_cons, bind_eq_error, exists_first_cons_iff, ← ih]
    simp only [hrest, exists_and_right]

/-- Steps that pass something on fail as the first one that does, given what those before it pass
on. -/
theorem foldlM_eq_error {g : β → α → Except ε β} {b : β} {e : ε} :
    as.foldlM g b = .error e ↔ ∃ before a after b', as = before ++ a :: after ∧
      before.foldlM g b = .ok b' ∧ g b' a = .error e := by
  induction as generalizing b with
  | nil =>
    constructor
    · intro h
      cases h
    · rintro ⟨before, a, after, b', h, -⟩
      cases before <;> cases h
  | cons a as ih =>
    rw [List.foldlM_cons, bind_eq_error]
    constructor
    · rintro (h | ⟨b₁, hb₁, h⟩)
      · exact ⟨[], a, as, b, rfl, rfl, h⟩
      · obtain ⟨before, a', after, b', rfl, hbefore, ha'⟩ := ih.1 h
        refine ⟨a :: before, a', after, b', rfl, ?_, ha'⟩
        rw [List.foldlM_cons]
        exact bind_eq_ok.2 ⟨b₁, hb₁, hbefore⟩
    · rintro ⟨before, a', after, b', h, hbefore, ha'⟩
      cases before with
      | nil =>
        cases h
        cases hbefore
        exact .inl ha'
      | cons x before =>
        cases h
        rw [List.foldlM_cons] at hbefore
        obtain ⟨b₁, hb₁, hbefore⟩ := bind_eq_ok.1 hbefore
        exact .inr ⟨b₁, hb₁, ih.2 ⟨before, a', after, b', rfl, hbefore, ha'⟩⟩

end Outcome
end ApiScribe
