import ApiScribe.Outcome
import ApiScribe.Proofs.Json.Strings
import ApiScribe.Yaml.Scalar
import Mathlib.Algebra.Group.Nat.Defs

/-!
# Strings of JSON as scalars of YAML

Every escape that JSON writes is one of YAML, with the same meaning, and a written string has no
break and no tab, so none of its lines is folded and none of its blanks is lost.  The notations
part where a character takes two escapes: JSON joins them to one character, YAML reads each as a
code point.

Main statement: `quoted_text` — a written string is read as its sixteen-bit units.
-/

namespace ApiScribe.Yaml

open Json (escapeChar isBasic_of_le shortEscape? spells_escapeChar unitEscape unitsOf unitsOf_lt
  unitsOf_of_isBasic)

/-! ### Hexadecimal digits -/

/-- A digit is one of the ten or one of the letters from `a`, and has its value. -/
theorem hexDigit_value : ∀ n < 16,
    (Text.hexDigit n).isDigit ∧ (Text.hexDigit n).toNat - 48 = n ∨
      ¬ (Text.hexDigit n).isDigit ∧ ('a' ≤ Text.hexDigit n ∧ Text.hexDigit n ≤ 'f') ∧
        (Text.hexDigit n).toNat - 87 = n := by
  decide

/-- Digits that were written are read as what is left of the number in that many places. -/
theorem hexNumber?_hexDigits (width n : Nat) :
    hexNumber? (Text.hexDigits width n) = some (n % 16 ^ width) := by
  induction width generalizing n with
  | zero => rw [Nat.pow_zero, Nat.mod_one]; rfl
  | succ width ih =>
    have hplaces : 16 * (n / 16 % 16 ^ width) + n % 16 = n % 16 ^ (width + 1) := by
      rw [Nat.pow_succ', Nat.mod_mul, Nat.add_comm]
    have hn := ih (n / 16)
    unfold hexNumber? at hn ⊢
    rw [Text.hexDigits, List.foldl_append, hn, List.foldl_cons, List.foldl_nil, ← hplaces]
    rcases hexDigit_value (n % 16) (Nat.mod_lt _ (by decide)) with ⟨hd, hv⟩ | ⟨hd, hl, hv⟩
    · simp [hd, hv]
    · simp [hd, hl, hv]

theorem length_hexDigits (width n : Nat) : (Text.hexDigits width n).length = width := by
  induction width generalizing n with
  | zero => rfl
  | succ width ih => rw [Text.hexDigits, List.length_append, ih, List.length_singleton]

/-! ### One step of a scalar in double quotes -/

@[simp] theorem isGap_backslash : isGap '\\' = false := by decide

section
variable (fuel : Nat) (rest : List Char)

theorem quoted_plain {c : Char} (hc : isGap c = false) (hq : c ≠ '"') (hb : c ≠ '\\') :
    quoted true (fuel + 1) (c :: rest) = (quoted true fuel rest).map (before [c.toNat]) := by
  simp [quoted, hc, hq, hb]

theorem quoted_shortEscape {e d : Char} (h : escape? e = some d) :
    quoted true (fuel + 1) ('\\' :: e :: rest) =
      (quoted true fuel rest).map (before [d.toNat]) := by
  simp [quoted, h]

theorem quoted_unitEscape {n : Nat} (h : n < 0x10000) :
    quoted true (fuel + 1) (unitEscape n ++ rest) =
      (quoted true fuel rest).map (before [n]) := by
  have htake : (Text.hexDigits 4 n ++ rest).take 4 = Text.hexDigits 4 n :=
    List.take_left' (length_hexDigits 4 n)
  have hdrop : (Text.hexDigits 4 n ++ rest).drop 4 = rest :=
    List.drop_left' (length_hexDigits 4 n)
  have hnumber : hexNumber? (Text.hexDigits 4 n) = some n := by
    have hplaces : 16 ^ 4 = 65536 := rfl
    rw [hexNumber?_hexDigits, hplaces, Nat.mod_eq_of_lt h]
  have hpoint : escaped n = .ok n := if_neg (by omega)
  have hletter : escape? 'u' = none := rfl
  have hwidth : escapeWidth? 'u' = some 4 := rfl
  simp [unitEscape, quoted, hletter, hwidth, htake, hdrop, length_hexDigits, hnumber,
    hpoint, Outcome.ok_bind]

end

/-! ### Characters -/

/-- A printable character of ASCII is no gap, but for the blank. -/
theorem isGap_of_printable {c : Char} (h : 0x20 ≤ c.toNat ∧ c.toNat ≤ 0x7E) (hc : c ≠ ' ') :
    isGap c = false := by
  simp only [isGap, isBlank, isBreak, List.contains_eq_mem, List.mem_cons, List.not_mem_nil,
    or_false, Bool.or_eq_false_iff, beq_eq_false_iff_ne, decide_eq_false_iff_not, not_or]
  refine ⟨⟨hc, ?_⟩, ?_, ?_, ?_, ?_, ?_⟩
  all_goals
    rintro rfl
    exact absurd h (by decide)

/-- A letter that JSON knows after a backslash stands for the same character in YAML. -/
theorem escape?_of_shortEscape? {e c : Char} (h : shortEscape? e = some c) :
    escape? e = some c := by
  unfold shortEscape? at h
  split at h
  all_goals first | exact h | cases h

/-- A character other than a blank is written without a gap at the start. -/
theorem escapeChar_head {c : Char} (hc : c ≠ ' ') :
    ∃ x xs, escapeChar c = x :: xs ∧ isGap x = false := by
  have hspells := spells_escapeChar c
  generalize escapeChar c = cs at hspells ⊢
  cases hspells with
  | short e _ _ _ => exact ⟨_, _, rfl, isGap_backslash⟩
  | itself h _ _ => exact ⟨c, [], rfl, isGap_of_printable h hc⟩
  | units =>
    unfold unitsOf
    split <;> exact ⟨_, _, rfl, isGap_backslash⟩

theorem length_unitEscapes (ns : List Nat) : (ns.flatMap unitEscape).length = 6 * ns.length := by
  induction ns with
  | nil => rfl
  | cons n ns ih =>
    have hn : (unitEscape n).length = 6 := by
      rw [unitEscape, List.length_cons, List.length_cons, length_hexDigits]
    rw [List.flatMap_cons, List.length_append, hn, ih, List.length_cons]
    omega

/-- A character is written with at least as many characters as it has units. -/
theorem length_unitsOf_le (c : Char) : (unitsOf c).length ≤ (escapeChar c).length := by
  have hspells := spells_escapeChar c
  generalize escapeChar c = cs at hspells ⊢
  cases hspells with
  | short e _ _ hc =>
    rw [unitsOf_of_isBasic hc]
    exact Nat.le_succ 1
  | itself h _ _ =>
    rw [unitsOf_of_isBasic (isBasic_of_le h.2)]
    exact Nat.le_refl 1
  | units =>
    rw [length_unitEscapes]
    omega

/-- Escapes of units are read as these units, one step for each. -/
theorem quoted_unitEscapes {ns : List Nat} (h : ∀ n ∈ ns, n < 0x10000) (fuel : Nat)
    (rest : List Char) : quoted true (fuel + ns.length) (ns.flatMap unitEscape ++ rest) =
      (quoted true fuel rest).map (before ns) := by
  induction ns with
  | nil =>
    rw [List.flatMap_nil, List.nil_append]
    cases quoted true fuel rest <;> rfl
  | cons n ns ih =>
    obtain ⟨hn, hns⟩ := List.forall_mem_cons.1 h
    rw [List.flatMap_cons, List.append_assoc, List.length_cons, ← Nat.add_assoc,
      quoted_unitEscape _ _ hn, ih hns]
    cases quoted true fuel rest <;> rfl

/-- The escape of a character other than a blank is read as its units, one step for each. -/
theorem quoted_escapeChar {c : Char} (hc : c ≠ ' ') (fuel : Nat) (rest : List Char) :
    quoted true (fuel + (unitsOf c).length) (escapeChar c ++ rest) =
      (quoted true fuel rest).map (before (unitsOf c)) := by
  have hspells := spells_escapeChar c
  generalize escapeChar c = cs at hspells ⊢
  cases hspells with
  | short e _ h hbasic =>
    rw [unitsOf_of_isBasic hbasic]
    exact quoted_shortEscape fuel rest (escape?_of_shortEscape? h)
  | itself h hq hb =>
    rw [unitsOf_of_isBasic (isBasic_of_le h.2)]
    exact quoted_plain fuel rest (isGap_of_printable h hc) hq hb
  | units => exact quoted_unitEscapes (unitsOf_lt c) fuel rest

/-! ### Strings -/

/-- A text that does not start with a gap has no blanks and no line end there. -/
theorem lineBreak?_cons {c : Char} (hc : isGap c = false) (rest : List Char) :
    lineBreak? (c :: rest) = none := by
  rw [isGap, Bool.or_eq_false_iff] at hc
  have hbreak := hc.2
  simp only [isBreak, List.contains_eq_mem, List.mem_cons, decide_eq_false_iff_not, not_or] at hc
  unfold lineBreak?
  split
  · next h => cases h; exact absurd rfl hc.2.1
  · next h => cases h; simp [hc, hbreak]
  · rfl

theorem dropWhile_blank_cons {c : Char} (hc : isGap c = false) (rest : List Char) :
    (c :: rest).dropWhile isBlank = c :: rest := by
  rw [isGap, Bool.or_eq_false_iff] at hc
  exact List.dropWhile_cons_of_neg (by simp [hc.1])

/-- No run of blanks in a written string is the end of a line. -/
theorem lineBreak?_dropWhile_text (cs rest : List Char) :
    lineBreak? ((cs.flatMap escapeChar ++ '"' :: rest).dropWhile isBlank) = none := by
  induction cs with
  | nil =>
    rw [List.flatMap_nil, List.nil_append, dropWhile_blank_cons (by decide)]
    exact lineBreak?_cons (by decide) rest
  | cons c cs ih =>
    rw [List.flatMap_cons, List.append_assoc]
    by_cases hc : c = ' '
    · subst hc
      exact ih
    · obtain ⟨x, xs, hx, hgap⟩ := escapeChar_head hc
      rw [hx, List.cons_append, dropWhile_blank_cons hgap]
      exact lineBreak?_cons hgap _

/-- A run of blanks is one step, if it is not the end of a line. -/
theorem quoted_run {c : Char} {rest : List Char} (hc : isBlank c)
    (hbreak : lineBreak? (rest.dropWhile isBlank) = none) (fuel : Nat) :
    quoted true (fuel + 1) (c :: rest) =
      (quoted true fuel (rest.dropWhile isBlank)).map
        (before (c.toNat :: codePoints (rest.takeWhile isBlank))) := by
  have hgap : isGap c = true := by rw [isGap, hc, Bool.true_or]
  simp [quoted, hgap, hc, hbreak, codePoints]

/-- What follows a blank may start with blanks of the same run, which are read in one step with it.
So it has to be readable with any number of steps. -/
theorem quoted_blank {rest after : List Char} {points : List Nat}
    (hbreak : lineBreak? (rest.dropWhile isBlank) = none)
    (h : ∀ fuel, rest.length < fuel → quoted true fuel rest = .ok (points, after)) {fuel : Nat}
    (hfuel : rest.length < fuel) :
    quoted true (fuel + 1) (' ' :: rest) = .ok (0x20 :: points, after) := by
  rw [quoted_run rfl hbreak]
  cases rest with
  | nil => cases h 1 (by decide)
  | cons c rest =>
    by_cases hc : isBlank c = true
    · rw [List.dropWhile_cons_of_pos hc] at hbreak ⊢
      have hrun := h (fuel + 1) (by omega)
      rw [quoted_run hc hbreak] at hrun
      obtain ⟨r, hr, hbefore⟩ := Outcome.map_eq_ok.1 hrun
      rw [before, Prod.mk.injEq] at hbefore
      rw [hr, List.takeWhile_cons_of_pos hc, ← hbefore.1, ← hbefore.2]
      rfl
    · rw [List.dropWhile_cons_of_neg hc, List.takeWhile_cons_of_neg hc, h fuel hfuel]
      rfl

/-- A written string, after its opening quote, is read as its sixteen-bit units. -/
theorem quoted_text (cs rest : List Char) {fuel : Nat}
    (h : (cs.flatMap escapeChar ++ '"' :: rest).length < fuel) :
    quoted true fuel (cs.flatMap escapeChar ++ '"' :: rest) = .ok (cs.flatMap unitsOf, rest) := by
  induction cs generalizing fuel with
  | nil =>
    obtain ⟨fuel, rfl⟩ : ∃ n, fuel = n + 1 := ⟨fuel - 1, by omega⟩
    exact quoted_quote fuel rest
  | cons c cs ih =>
    rw [List.flatMap_cons, List.append_assoc] at h ⊢
    rw [List.length_append] at h
    by_cases hc : c = ' '
    · subst hc
      have hblank : (escapeChar ' ').length = 1 := rfl
      obtain ⟨fuel, rfl⟩ : ∃ n, fuel = n + 1 := ⟨fuel - 1, by omega⟩
      exact quoted_blank (lineBreak?_dropWhile_text cs rest) (fun _ hfuel => ih hfuel)
        (by rw [hblank] at h; omega)
    · obtain ⟨fuel, rfl⟩ : ∃ n, fuel = n + (unitsOf c).length :=
        ⟨fuel - (unitsOf c).length, by have := length_unitsOf_le c; omega⟩
      rw [quoted_escapeChar hc, ih (by have := length_unitsOf_le c; omega), List.flatMap_cons]
      rfl

end ApiScribe.Yaml
