import Mathlib.Data.List.Pairwise
import ApiScribe.Proofs.FileTree.Entry

/-!
# What files make of a directory

Files that are written into an empty directory leave the files themselves and the directories that
they need.  `laidOut` says so for each place below the directory.  No file may take the place of a
directory that another one needs; such files are apart, and then the order in which they are
written does not matter (`laidOut_eq_file`, `laidOut_eq_directory`).
-/

namespace ApiScribe

/-- A file as the names that lead to it from a directory, and its bytes. -/
abbrev Part := List String × List UInt8

namespace Part

open FileTree (Entry)

/-- Neither file is at the place of the other or below it. -/
def Apart (p q : Part) : Prop := ¬ p.1 <+: q.1 ∧ ¬ q.1 <+: p.1

/-- What files make of a place below their directory. -/
def laidOut (parts : List Part) (names : List String) : Option Entry :=
  match parts.lookup names with
  | some bytes => some (.file bytes)
  | none => if names = [] ∨ ∃ part ∈ parts, names <+: part.1 then some .directory else none

variable {parts : List Part} {part : Part} {names : List String}

theorem mem_of_lookup {bytes : List UInt8} (h : parts.lookup names = some bytes) :
    (names, bytes) ∈ parts := by
  obtain ⟨before, after, rfl, -⟩ := List.lookup_eq_some_iff.1 h
  exact List.mem_append_right _ List.mem_cons_self

theorem lookup_eq_none (h : ∀ p ∈ parts, p.1 ≠ names) : parts.lookup names = none := by
  rw [List.lookup_eq_none_iff]
  intro p hp
  rw [bne_iff_ne]
  exact (h p hp).symm

/-! ### One more file -/

theorem laidOut_nil : laidOut [] names = if names = [] then some .directory else none := by
  simp [laidOut]

theorem laidOut_of_lookup_none (h : parts.lookup names = none) :
    laidOut parts names =
      if names = [] ∨ ∃ part ∈ parts, names <+: part.1 then some .directory else none := by
  unfold laidOut
  rw [h]

/-- Above a place that is apart from all files there is no file. -/
theorem lookup_above (hapart : ∀ p ∈ parts, Apart p part) (h : names <+: part.1) :
    parts.lookup names = none := by
  apply lookup_eq_none
  rintro p hp rfl
  exact (hapart p hp).1 h

/-- Where a file apart from all others goes, nothing is yet. -/
theorem laidOut_self (hapart : ∀ p ∈ parts, Apart p part) (hne : part.1 ≠ []) :
    laidOut parts part.1 = none := by
  rw [laidOut_of_lookup_none (lookup_above hapart (List.prefix_refl _)), if_neg]
  rintro (h | ⟨p, hp, h⟩)
  · exact hne h
  · exact (hapart p hp).2 h

/-- The new file is at its place. -/
theorem laidOut_concat_self (hapart : ∀ p ∈ parts, Apart p part) :
    laidOut (parts ++ [part]) part.1 = some (.file part.2) := by
  have hnone := lookup_above hapart (List.prefix_refl _)
  unfold laidOut
  rw [List.lookup_append, hnone, Option.none_or, List.lookup_cons_self]

/-- The places above the new file are directories. -/
theorem laidOut_concat_above (hapart : ∀ p ∈ parts, Apart p part) (h : names <+: part.1)
    (hne : names ≠ part.1) : laidOut (parts ++ [part]) names = some .directory := by
  have hnone : (parts ++ [part]).lookup names = none := by
    apply lookup_eq_none
    intro p hp
    rcases List.mem_append.1 hp with hp | hp
    · rintro rfl
      exact (hapart p hp).1 h
    · rw [List.mem_singleton.1 hp]
      exact hne.symm
  rw [laidOut_of_lookup_none hnone, if_pos]
  exact .inr ⟨part, List.mem_append_right _ List.mem_cons_self, h⟩

/-- All other places are as before. -/
theorem laidOut_concat_elsewhere (h : ¬ names <+: part.1) :
    laidOut (parts ++ [part]) names = laidOut parts names := by
  have hne : names ≠ part.1 := by
    rintro rfl
    exact h (List.prefix_refl _)
  have hlookup : (parts ++ [part]).lookup names = parts.lookup names := by
    have hone : [part].lookup names = none := by
      apply lookup_eq_none
      intro p hp
      rw [List.mem_singleton.1 hp]
      exact hne.symm
    rw [List.lookup_append, hone, Option.or_none]
  have hneeded : (names = [] ∨ ∃ p ∈ parts ++ [part], names <+: p.1) ↔
      (names = [] ∨ ∃ p ∈ parts, names <+: p.1) := by
    simp only [List.mem_append, List.mem_singleton, or_and_right, exists_or, exists_eq_left, h,
      or_false]
  unfold laidOut
  simp only [hlookup, hneeded]

/-! ### All files -/

theorem lookup_of_mem (hapart : parts.Pairwise Apart) (h : part ∈ parts) :
    parts.lookup part.1 = some part.2 := by
  obtain ⟨before, after, rfl⟩ := List.append_of_mem h
  rw [List.lookup_eq_some_iff]
  refine ⟨before, after, rfl, ?_⟩
  intro p hp
  have hp' := (List.pairwise_append.1 hapart).2.2 p hp part List.mem_cons_self
  rw [bne_iff_ne]
  intro he
  exact hp'.2 (he ▸ List.prefix_refl _)

instance : Std.Symm Apart := ⟨fun _ _ h => ⟨h.2, h.1⟩⟩

theorem apart_of_mem (hapart : parts.Pairwise Apart) {p q : Part} (hp : p ∈ parts) (hq : q ∈ parts)
    (hne : p ≠ q) : Apart p q :=
  hapart.forall hp hq hne

/-- The files that are there are the given ones. -/
theorem laidOut_eq_file (hapart : parts.Pairwise Apart) {bytes : List UInt8} :
    laidOut parts names = some (.file bytes) ↔ (names, bytes) ∈ parts := by
  constructor
  · intro h
    unfold laidOut at h
    split at h
    · next old hold =>
      cases h
      exact mem_of_lookup hold
    · split at h <;> cases h
  · intro h
    unfold laidOut
    rw [lookup_of_mem hapart h]

/-- The directories that are there are those that hold a given file, and the one of them all. -/
theorem laidOut_eq_directory (hapart : parts.Pairwise Apart) (hne : ∀ p ∈ parts, p.1 ≠ []) :
    laidOut parts names = some .directory ↔
      names = [] ∨ ∃ p ∈ parts, ∃ below, below ≠ [] ∧ p.1 = names ++ below := by
  constructor
  · intro h
    unfold laidOut at h
    split at h
    · cases h
    · next hnone =>
      split at h
      · next hneeded =>
        rcases hneeded with hnil | ⟨p, hp, below, hb⟩
        · exact .inl hnil
        · refine .inr ⟨p, hp, below, ?_, hb.symm⟩
          rintro rfl
          rw [List.append_nil] at hb
          rw [hb, lookup_of_mem hapart hp] at hnone
          cases hnone
      · cases h
  · intro h
    have hnone : parts.lookup names = none := by
      apply lookup_eq_none
      rintro q hq rfl
      rcases h with hnil | ⟨p, hp, below, hb, he⟩
      · exact hne q hq hnil
      · -- a file with a needed directory at its place would not be apart from the other
        have hpq : p ≠ q := by
          rintro rfl
          exact hb (List.append_right_eq_self.1 he.symm)
        exact (apart_of_mem hapart hp hq hpq).2 ⟨below, he.symm⟩
    rw [laidOut_of_lookup_none hnone, if_pos]
    rcases h with hnil | ⟨p, hp, below, -, he⟩
    · exact .inl hnil
    · exact .inr ⟨p, hp, below, he.symm⟩

end Part
end ApiScribe
