/-!
# Splitting text at a separator

`splitOn` cuts a text at every occurrence of one character, and `intercalate` of core puts it
together again.  Neither piece nor separator is ever dropped: a separator at the end leaves an
empty last piece.
-/

namespace ApiScribe.Text

/-- The pieces of a text between the occurrences of `sep`; there is always at least one. -/
def splitOn (sep : Char) : List Char → List (List Char)
  | [] => [[]]
  | c :: cs =>
    if c = sep then [] :: splitOn sep cs
    else match splitOn sep cs with
      | [] => [[c]]
      | piece :: pieces => (c :: piece) :: pieces

/-- The pieces of a text joined by `sep`. -/
def join (sep : List Char) : List (List Char) → List Char
  | [] => []
  | [piece] => piece
  | piece :: pieces => piece ++ sep ++ join sep pieces

/-- What follows `lead` in a text that starts with it. -/
def dropLead? : List Char → List Char → Option (List Char)
  | [], cs => some cs
  | _ :: _, [] => none
  | l :: ls, c :: cs => if l = c then dropLead? ls cs else none

/-- The text starts with `lead`. -/
def startsWith (lead cs : List Char) : Bool := (dropLead? lead cs).isSome

/-- The text ends with `tail`. -/
def endsWith (tail cs : List Char) : Bool := startsWith tail.reverse cs.reverse

/-- The text before the first occurrence of `mark` and the text after it. -/
def cut? (mark : List Char) : List Char → Option (List Char × List Char)
  | [] => if mark.isEmpty then some ([], []) else none
  | c :: cs =>
    match dropLead? mark (c :: cs) with
    | some rest => some ([], rest)
    | none => (cut? mark cs).map fun (before, after) => (c :: before, after)

theorem dropLead?_append (lead rest : List Char) : dropLead? lead (lead ++ rest) = some rest := by
  induction lead with
  | nil => rfl
  | cons l ls ih => simp [dropLead?, ih]

theorem dropLead?_eq_some {lead cs rest : List Char} :
    dropLead? lead cs = some rest ↔ cs = lead ++ rest := by
  constructor
  · intro h
    induction lead generalizing cs with
    | nil =>
      cases h
      rfl
    | cons l ls ih =>
      cases cs with
      | nil => cases h
      | cons c cs =>
        rw [dropLead?] at h
        split at h
        · next hc => rw [hc, ih h, List.cons_append]
        · cases h
  · rintro rfl
    exact dropLead?_append lead rest

theorem startsWith_append (lead rest : List Char) : startsWith lead (lead ++ rest) := by
  simp [startsWith, dropLead?_append]

theorem startsWith_iff {lead cs : List Char} : startsWith lead cs = true ↔ lead <+: cs := by
  constructor
  · intro h
    obtain ⟨rest, hrest⟩ := Option.isSome_iff_exists.1 h
    exact ⟨rest, (dropLead?_eq_some.1 hrest).symm⟩
  · rintro ⟨rest, rfl⟩
    exact startsWith_append lead rest

/-! ### What is in the pieces -/

/-- What stands before the first separator is the first piece. -/
theorem splitOn_append_cons {sep : Char} {piece rest : List Char} (h : sep ∉ piece) :
    splitOn sep (piece ++ sep :: rest) = piece :: splitOn sep rest := by
  induction piece with
  | nil => simp [splitOn]
  | cons c piece ih =>
    rw [List.mem_cons, not_or] at h
    simp [splitOn, Ne.symm h.1, ih h.2]

/-- The first piece starts as the text does. -/
theorem exists_splitOn_append {sep : Char} {lead : List Char} (rest : List Char)
    (h : sep ∉ lead) : ∃ piece more, splitOn sep (lead ++ rest) = (lead ++ piece) :: more := by
  induction lead with
  | nil =>
    cases rest with
    | nil => exact ⟨[], [], rfl⟩
    | cons c rest =>
      by_cases hc : c = sep
      · exact ⟨[], splitOn sep rest, by simp [splitOn, hc]⟩
      · cases hs : splitOn sep rest with
        | nil => exact ⟨[c], [], by simp [splitOn, hc, hs]⟩
        | cons piece more => exact ⟨c :: piece, more, by simp [splitOn, hc, hs]⟩
  | cons c lead ih =>
    rw [List.mem_cons, not_or] at h
    obtain ⟨piece, more, hs⟩ := ih h.2
    exact ⟨piece, more, by simp [splitOn, Ne.symm h.1, hs]⟩

/-- A character other than the separator is in a piece exactly if it is in the text. -/
theorem exists_mem_splitOn {sep c : Char} (hc : c ≠ sep) {cs : List Char} :
    (∃ piece ∈ splitOn sep cs, c ∈ piece) ↔ c ∈ cs := by
  induction cs with
  | nil => simp [splitOn]
  | cons d cs ih =>
    by_cases hd : d = sep
    · have hcd : c ≠ d := hd ▸ hc
      simp [splitOn, hd, ih, hc]
    · cases hs : splitOn sep cs with
      | nil => simp [splitOn, hd, hs, ← ih]
      | cons piece pieces => simp [splitOn, hd, hs, ← ih, or_assoc]

/-- A text is cut at the first occurrence of a mark of one character. -/
theorem cut?_append_cons {c : Char} {cs rest : List Char} (h : c ∉ cs) :
    cut? [c] (cs ++ c :: rest) = some (cs, rest) := by
  induction cs with
  | nil => simp [cut?, dropLead?]
  | cons d cs ih =>
    rw [List.mem_cons, not_or] at h
    obtain ⟨hd, hcs⟩ := h
    simp [cut?, dropLead?, hd, ih hcs]

/-! ### Lengths, for the recursions that use what is left -/

theorem dropLead?_length {lead cs rest : List Char} (h : dropLead? lead cs = some rest) :
    rest.length + lead.length = cs.length := by
  rw [dropLead?_eq_some.1 h, List.length_append, Nat.add_comm]

end ApiScribe.Text
