import Mathlib.Data.List.TakeWhile
import ApiScribe.Json.Reader

/-!
# The grammar of numbers

What a number looks like in JSON, told apart from how it is read: a sign, a whole part without
needless zeros, a fraction and an exponent (`IsNumber`).  The reader takes as much as it can, so it
reads such a text if what stands after it cannot belong to a number (`number?_of_isNumber`), and
whatever it reads is such a text (`isNumber_of_number?`).
-/

namespace ApiScribe.Json

/-! ### Numbers as they are written -/

/-- The whole part of a number: a zero, or digits that do not begin with one. -/
inductive IsWhole : List Char → Prop
  | zero : IsWhole ['0']
  | digits {c : Char} {more : List Char} (hc : '1' ≤ c ∧ c ≤ '9') (h : ∀ d ∈ more, d.isDigit) :
    IsWhole (c :: more)

/-- How the digits of a fraction are written, if there are any. -/
inductive IsFraction : List Char → List Char → Prop
  | none : IsFraction [] []
  | digits {c : Char} {more : List Char} (h : ∀ d ∈ c :: more, d.isDigit) :
    IsFraction (c :: more) ('.' :: c :: more)

/-- How an exponent is written, if there is one. -/
inductive IsExponent : Option Int → List Char → Prop
  | none : IsExponent none []
  | digits {letter : Char} {sign digits : List Char} (hletter : letter = 'e' ∨ letter = 'E')
      (hsign : sign ∈ [[], ['+'], ['-']]) (hdigits : digits ≠ []) (h : ∀ d ∈ digits, d.isDigit) :
    IsExponent (some (if sign = ['-'] then -(decimalValue digits : Int) else decimalValue digits))
      (letter :: (sign ++ digits))

/-- The characters spell the number. -/
inductive IsNumber : List Char → NumberText → Prop
  | of {negative : Bool} {whole fraction : List Char} {exponent : Option Int}
      {fractionText exponentText : List Char} (hwhole : IsWhole whole)
      (hfraction : IsFraction fraction fractionText)
      (hexponent : IsExponent exponent exponentText) :
    IsNumber ((if negative then ['-'] else []) ++ (whole ++ (fractionText ++ exponentText)))
      ⟨negative, whole, fraction, exponent⟩

/-- What stands after a value: nothing, space, or what separates or closes. -/
def Ends (rest : List Char) : Prop :=
  ∀ c more, rest = c :: more → isSpace c ∨ c ∈ [',', ']', '}']

/-- No digit stands at the start. -/
def NoDigit (rest : List Char) : Prop := ∀ c more, rest = c :: more → c.isDigit = false

/-! ### Digits -/

theorem isDigit_of_le {c : Char} (h : '1' ≤ c ∧ c ≤ '9') : c.isDigit = true := by
  have h0 : '0' ≤ c := Char.le_trans (by decide) h.1
  simp only [Char.isDigit, Bool.and_eq_true, decide_eq_true_eq]
  exact ⟨h0, h.2⟩

theorem IsWhole.head {whole : List Char} (h : IsWhole whole) :
    ∃ c more, whole = c :: more ∧ c.isDigit = true := by
  cases h with
  | zero => exact ⟨'0', [], rfl, by decide⟩
  | digits hc _ => exact ⟨_, _, rfl, isDigit_of_le hc⟩

theorem Ends.ne_of_isDigit {c : Char} {more : List Char} (h : Ends (c :: more)) :
    c.isDigit = false ∧ c ≠ '.' ∧ c ≠ 'e' ∧ c ≠ 'E' := by
  have hc := h c more rfl
  have hspace : isSpace c → c ∈ [' ', '\t', '\n', '\r'] := by
    simp [isSpace, or_assoc]
  have hall : ∀ d ∈ [' ', '\t', '\n', '\r'] ++ [',', ']', '}'],
      d.isDigit = false ∧ d ≠ '.' ∧ d ≠ 'e' ∧ d ≠ 'E' := by
    simp [Char.isDigit]
  exact hall c (List.mem_append.2 (hc.imp_left hspace))

theorem Ends.noDigit {rest : List Char} (h : Ends rest) : NoDigit rest := by
  rintro c more rfl
  exact h.ne_of_isDigit.1

theorem append_digitRun (s : List Char) : (digitRun s).1 ++ (digitRun s).2 = s :=
  List.takeWhile_append_dropWhile

theorem forall_isDigit_digitRun (s : List Char) : ∀ d ∈ (digitRun s).1, d.isDigit := by
  intro d hd
  exact List.mem_takeWhile_imp hd

theorem digitRun_append {digits rest : List Char} (h : ∀ d ∈ digits, d.isDigit)
    (hrest : NoDigit rest) : digitRun (digits ++ rest) = (digits, rest) := by
  have hnone : digitRun rest = ([], rest) := by
    cases rest with
    | nil => rfl
    | cons c more =>
      have hc := hrest c more rfl
      simp [digitRun, hc]
  have htake : rest.takeWhile Char.isDigit = [] := congrArg Prod.fst hnone
  have hdrop : rest.dropWhile Char.isDigit = rest := congrArg Prod.snd hnone
  rw [digitRun, List.takeWhile_append_of_pos h, List.dropWhile_append_of_pos h, htake, hdrop,
    List.append_nil]

/-! ### What is read is written so -/

theorem isWhole_of_integerPart? {s whole rest : List Char}
    (h : integerPart? s = some (whole, rest)) : IsWhole whole ∧ s = whole ++ rest := by
  unfold integerPart? at h
  split at h
  · cases h
    exact ⟨.zero, rfl⟩
  · next c more _ =>
    split at h
    · next hc =>
      cases h
      exact ⟨.digits hc (forall_isDigit_digitRun more),
        congrArg (c :: ·) (append_digitRun more).symm⟩
    · cases h
  · cases h

theorem isFraction_of_fractionPart (s : List Char) :
    ∃ text, IsFraction (fractionPart s).1 text ∧ s = text ++ (fractionPart s).2 := by
  unfold fractionPart
  split
  · next c more =>
    split
    · next hc =>
      exact ⟨_, .digits (List.forall_mem_cons.2 ⟨hc, forall_isDigit_digitRun more⟩),
        congrArg ('.' :: c :: ·) (append_digitRun more).symm⟩
    · exact ⟨[], .none, rfl⟩
  · exact ⟨[], .none, rfl⟩

theorem exponentSign_eq (s : List Char) : ∃ sign ∈ [[], ['+'], ['-']],
    s = sign ++ (exponentSign s).2 ∧ ((exponentSign s).1 = true ↔ sign = ['-']) := by
  unfold exponentSign
  split
  · exact ⟨['+'], by simp, rfl, by simp⟩
  · exact ⟨['-'], by simp, rfl, by simp⟩
  · exact ⟨[], by simp, rfl, by simp⟩

theorem isExponent_of_exponentPart (s : List Char) :
    ∃ text, IsExponent (exponentPart s).1 text ∧ s = text ++ (exponentPart s).2 := by
  fun_cases exponentPart s with
  | case1 => exact ⟨[], .none, rfl⟩
  | case2 c rest body h n =>
    obtain ⟨sign, hsign, hrest, hnegative⟩ := exponentSign_eq rest
    have hvalue : (if (exponentSign rest).1 then -n else n) =
        if sign = ['-'] then -(decimalValue (digitRun body).1 : Int)
          else decimalValue (digitRun body).1 := by
      simp only [hnegative]
      rfl
    refine ⟨c :: (sign ++ (digitRun body).1), ?_, ?_⟩
    · rw [hvalue]
      exact .digits h.1 hsign h.2 (forall_isDigit_digitRun body)
    · rw [List.cons_append, List.append_assoc, append_digitRun, ← hrest]
  | case3 => exact ⟨[], .none, rfl⟩

theorem eq_numberSign (s : List Char) :
    s = (if (numberSign s).1 then ['-'] else []) ++ (numberSign s).2 := by
  unfold numberSign
  split <;> rfl

/-- The parts of a number that was read, one behind the other. -/
theorem parts_of_number? {s rest : List Char} {n : NumberText} (h : number? s = some (n, rest)) :
    ∃ whole more, integerPart? (numberSign s).2 = some (whole, more) ∧
      n = ⟨(numberSign s).1, whole, (fractionPart more).1,
        (exponentPart (fractionPart more).2).1⟩ ∧
      rest = (exponentPart (fractionPart more).2).2 := by
  obtain ⟨⟨whole, more⟩, hwhole, h⟩ := Option.map_eq_some_iff.1 h
  have hparts : (NumberText.mk (numberSign s).1 whole (fractionPart more).1
      (exponentPart (fractionPart more).2).1, (exponentPart (fractionPart more).2).2) =
        (n, rest) := h
  obtain ⟨rfl, rfl⟩ := Prod.mk.inj hparts
  exact ⟨whole, more, hwhole, rfl, rfl⟩

theorem isNumber_of_number? {s rest : List Char} {n : NumberText}
    (h : number? s = some (n, rest)) : ∃ word, IsNumber word n ∧ s = word ++ rest := by
  obtain ⟨whole, more, hwhole, rfl, rfl⟩ := parts_of_number? h
  obtain ⟨hw, hmore⟩ := isWhole_of_integerPart? hwhole
  obtain ⟨fractionText, hf, hfraction⟩ := isFraction_of_fractionPart more
  obtain ⟨exponentText, he, hexponent⟩ := isExponent_of_exponentPart (fractionPart more).2
  refine ⟨_, .of hw hf he, ?_⟩
  rw [List.append_assoc, List.append_assoc, List.append_assoc, ← hexponent, ← hfraction, ← hmore]
  exact eq_numberSign s

/-! ### What is written so is read -/

theorem integerPart?_append {whole rest : List Char} (h : IsWhole whole) (hrest : NoDigit rest) :
    integerPart? (whole ++ rest) = some (whole, rest) := by
  cases h with
  | zero => rfl
  | @digits c more hc h =>
    have hzero : c ≠ '0' := by
      rintro rfl
      exact absurd hc.1 (by decide)
    rw [List.cons_append]
    unfold integerPart?
    split
    · next heq =>
      cases heq
      exact absurd rfl hzero
    · next heq =>
      cases heq
      rw [if_pos hc, digitRun_append h hrest]
    · next heq => cases heq

theorem fractionPart_append {fraction text rest : List Char} (h : IsFraction fraction text)
    (hrest : NoDigit rest) (hpoint : ∀ more, rest ≠ '.' :: more) :
    fractionPart (text ++ rest) = (fraction, rest) := by
  cases h with
  | none =>
    rw [List.nil_append]
    unfold fractionPart
    split
    · exact absurd rfl (hpoint _)
    · rfl
  | @digits c more h =>
    obtain ⟨hc, hmore⟩ := List.forall_mem_cons.1 h
    show (if c.isDigit then _ else _) = _
    rw [if_pos hc]
    show (c :: (digitRun (more ++ rest)).1, (digitRun (more ++ rest)).2) = _
    rw [digitRun_append hmore hrest]

theorem exponentSign_append {sign digits : List Char} (hsign : sign ∈ [[], ['+'], ['-']])
    (hdigits : digits ≠ []) (h : ∀ d ∈ digits, d.isDigit) (rest : List Char) :
    exponentSign (sign ++ (digits ++ rest)) = (decide (sign = ['-']), digits ++ rest) := by
  simp only [List.mem_cons, List.not_mem_nil, or_false] at hsign
  rcases hsign with rfl | rfl | rfl
  · -- a digit is no sign
    obtain ⟨d, more, rfl⟩ := List.exists_cons_of_ne_nil hdigits
    have hd : d.isDigit = true := h d List.mem_cons_self
    rw [List.nil_append, List.cons_append]
    unfold exponentSign
    split
    · next heq =>
      cases heq
      exact absurd hd (by decide)
    · next heq =>
      cases heq
      exact absurd hd (by decide)
    · rfl
  · rfl
  · rfl

theorem exponentPart_append {exponent : Option Int} {text rest : List Char}
    (h : IsExponent exponent text) (hrest : Ends rest) :
    exponentPart (text ++ rest) = (exponent, rest) := by
  cases h with
  | none =>
    rw [List.nil_append]
    cases rest with
    | nil => rfl
    | cons c more =>
      obtain ⟨-, -, he, hE⟩ := hrest.ne_of_isDigit
      rw [exponentPart, if_neg (fun h => h.1.elim he hE)]
  | @digits letter sign digits hletter hsign hdigits h =>
    have hrun := digitRun_append h hrest.noDigit
    have hsigned := exponentSign_append hsign hdigits h rest
    have hif : (letter = 'e' ∨ letter = 'E') ∧ (digitRun (digits ++ rest)).1 ≠ [] := by
      rw [hrun]
      exact ⟨hletter, hdigits⟩
    rw [List.cons_append, List.append_assoc]
    unfold exponentPart
    simp only [hsigned]
    rw [if_pos hif, hrun]
    simp only [decide_eq_true_eq]

/-- A whole part begins with a digit, so only the sign before it is taken for one. -/
theorem numberSign_append {whole : List Char} (h : IsWhole whole) (negative : Bool)
    (rest : List Char) :
    numberSign ((if negative then ['-'] else []) ++ (whole ++ rest)) =
      (negative, whole ++ rest) := by
  cases negative with
  | true => rfl
  | false =>
    obtain ⟨c, more, rfl, hc⟩ := h.head
    show numberSign (c :: (more ++ rest)) = _
    unfold numberSign
    split
    · next heq =>
      cases heq
      exact absurd hc (by decide)
    · rfl

/-- A number is read if what stands after it cannot belong to it. -/
theorem number?_of_isNumber {word rest : List Char} {n : NumberText} (h : IsNumber word n)
    (hrest : Ends rest) : number? (word ++ rest) = some (n, rest) := by
  cases h with
  | @of negative whole fraction exponent fractionText exponentText hwhole hfraction hexponent =>
    -- an exponent begins with a letter, and what ends a value is neither digit nor point
    have hafter : NoDigit (exponentText ++ rest) ∧ ∀ more, exponentText ++ rest ≠ '.' :: more := by
      cases hexponent with
      | none =>
        refine ⟨hrest.noDigit, ?_⟩
        rintro more rfl
        exact hrest.ne_of_isDigit.2.1 rfl
      | digits hletter =>
        refine ⟨?_, ?_⟩
        · intro c more heq
          cases heq
          rcases hletter with rfl | rfl <;> decide
        · intro more heq
          cases heq
          exact absurd hletter (by decide)
    have hwholeAfter : NoDigit (fractionText ++ (exponentText ++ rest)) := by
      cases hfraction with
      | none => exact hafter.1
      | digits =>
        intro c more heq
        cases heq
        decide
    unfold number?
    simp only [List.append_assoc, numberSign_append hwhole, integerPart?_append hwhole hwholeAfter,
      Option.map_some, fractionPart_append hfraction hafter.1 hafter.2,
      exponentPart_append hexponent hrest]

/-! ### Integers that are too long -/

/-- An integer of so many digits stands at the start: a whole part to which neither a further digit
nor a fraction nor an exponent belongs. -/
def StartsInteger (s : List Char) (digits : Nat) : Prop :=
  ∃ (negative : Bool) (whole rest : List Char),
    s = (if negative then ['-'] else []) ++ (whole ++ rest) ∧ IsWhole whole ∧
      whole.length = digits ∧ NoDigit rest ∧
      (∀ fraction text more, IsFraction fraction text → rest = text ++ more → text = []) ∧
      ∀ exponent text more, IsExponent exponent text → rest = text ++ more → text = []

theorem noDigit_digitRun (s : List Char) : NoDigit (digitRun s).2 := by
  induction s with
  | nil =>
    intro c more h
    cases h
  | cons d s ih =>
    by_cases hd : d.isDigit
    · have hdrop : (digitRun (d :: s)).2 = (digitRun s).2 := List.dropWhile_cons_of_pos hd
      rw [hdrop]
      exact ih
    · have hdrop : (digitRun (d :: s)).2 = d :: s := List.dropWhile_cons_of_neg hd
      rw [hdrop]
      intro c more h
      cases h
      exact Bool.eq_false_iff.2 hd

theorem noDigit_of_integerPart? {s whole rest : List Char}
    (h : integerPart? s = some (whole, rest)) (hlength : 1 < whole.length) : NoDigit rest := by
  unfold integerPart? at h
  split at h
  · cases h
    exact absurd hlength (by decide)
  · next c more _ =>
    split at h
    · cases h
      exact noDigit_digitRun more
    · cases h
  · cases h

theorem eq_nil_of_fractionPart {s : List Char} (h : (fractionPart s).1 = []) :
    (fractionPart s).2 = s ∧
      ∀ fraction text more, IsFraction fraction text → s = text ++ more → text = [] := by
  unfold fractionPart at h ⊢
  split at h
  · next c more =>
    split at h
    · cases h
    · next hc =>
      refine ⟨by rw [if_neg hc], ?_⟩
      intro fraction text rest hfraction heq
      cases hfraction with
      | none => rfl
      | digits hdigits =>
        cases heq
        exact absurd (hdigits _ List.mem_cons_self) hc
  · next hother =>
    refine ⟨rfl, ?_⟩
    intro fraction text rest hfraction heq
    cases hfraction with
    | none => rfl
    | digits => exact absurd heq (hother _ _)

theorem eq_nil_of_exponentPart {s : List Char} (h : (exponentPart s).1 = none) :
    (exponentPart s).2 = s ∧
      ∀ exponent text more, IsExponent exponent text → s = text ++ more → text = [] := by
  cases s with
  | nil =>
    refine ⟨rfl, ?_⟩
    intro exponent text more _ heq
    exact (List.append_eq_nil_iff.1 heq.symm).1
  | cons c rest =>
    by_cases hc : (c = 'e' ∨ c = 'E') ∧ (digitRun (exponentSign rest).2).1 ≠ []
    · rw [exponentPart, if_pos hc] at h
      cases h
    · refine ⟨by rw [exponentPart, if_neg hc], ?_⟩
      intro exponent text more hexponent heq
      cases hexponent with
      | none => rfl
      | @digits letter sign digits hletter hsign hdigits hall =>
        obtain ⟨rfl, rfl⟩ := List.cons.inj heq
        refine absurd ⟨hletter, ?_⟩ hc
        -- the digits of the exponent would have been found behind its sign
        obtain ⟨d, digits, rfl⟩ := List.exists_cons_of_ne_nil hdigits
        have hd : d.isDigit = true := hall d List.mem_cons_self
        show (digitRun (exponentSign (sign ++ (d :: digits) ++ more)).2).1 ≠ []
        rw [List.append_assoc, exponentSign_append hsign hdigits hall]
        show (d :: (digits ++ more)).takeWhile Char.isDigit ≠ []
        rw [List.takeWhile_cons_of_pos hd]
        exact List.cons_ne_nil _ _

/-- A number that is not converted is an integer of too many digits. -/
theorem startsInteger_of_number? {s rest : List Char} {n : NumberText} {digits : Nat}
    (h : number? s = some (n, rest)) (hv : n.value = .error (.integerTooLong digits)) :
    maxIntegerDigits < digits ∧ StartsInteger s digits := by
  obtain ⟨whole, more, hwhole, rfl, rfl⟩ := parts_of_number? h
  obtain ⟨hw, hmore⟩ := isWhole_of_integerPart? hwhole
  unfold NumberText.value at hv
  split at hv
  · next hinteger =>
    split at hv
    · next hlong =>
      cases hv
      obtain ⟨hfraction, hexponent⟩ := Bool.and_eq_true_iff.1 hinteger
      obtain ⟨hsame, hnofraction⟩ := eq_nil_of_fractionPart (List.isEmpty_iff.1 hfraction)
      -- without a fraction the exponent would stand right behind the whole part
      have hnone := Option.isNone_iff_eq_none.1 hexponent
      rw [hsame] at hnone
      obtain ⟨-, hnoexponent⟩ := eq_nil_of_exponentPart hnone
      have hnodigit : NoDigit more :=
        noDigit_of_integerPart? hwhole (Nat.lt_trans (by decide) hlong)
      refine ⟨hlong, (numberSign s).1, whole, more, ?_, hw, rfl, hnodigit, hnofraction,
        hnoexponent⟩
      rw [← hmore]
      exact eq_numberSign s
    · cases hv
  · cases hv

end ApiScribe.Json
