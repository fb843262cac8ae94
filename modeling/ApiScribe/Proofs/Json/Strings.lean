import ApiScribe.Json.Printer
import ApiScribe.Json.Reader

/-!
# Reading a written string

`escapeChar` writes a character in ASCII, one outside the basic plane as two sixteen-bit units.
The reader first collects units and then joins the pairs, so the proof goes the same way:

* `spells_escapeChar` — a character is written in one of three forms;
* `stringUnits_escapeChar` — the escape of one character is read as its units;
* `joinSurrogates_unitsOf` — joining the units of a text gives its code points, since no character
  is itself half of a pair;
* `stringBody_text` — a written string is read as the code points of the text.
-/

namespace ApiScribe.Json

/-! ### Units -/

/-- The sixteen-bit units of a character: its code point, or the two halves of a pair. -/
def unitsOf (c : Char) : List Nat :=
  if c.toNat < 0x10000 then [c.toNat]
  else [0xD800 + (c.toNat - 0x10000) / 0x400, 0xDC00 + (c.toNat - 0x10000) % 0x400]

theorem isScalar_toNat (c : Char) : isScalar c.toNat = true := by
  have h : c.toNat < 0xD800 ∨ 0xDFFF < c.toNat ∧ c.toNat < 0x110000 := c.valid
  simp only [isScalar, Bool.or_eq_true, Bool.and_eq_true, decide_eq_true_eq]
  exact h

/-- A character of the basic plane is not the first half of a pair. -/
theorem isHighSurrogate_toNat (c : Char) : isHighSurrogate c.toNat = false := by
  have h : c.toNat < 0xD800 ∨ 0xDFFF < c.toNat ∧ c.toNat < 0x110000 := c.valid
  simp only [isHighSurrogate, Bool.and_eq_false_iff, decide_eq_false_iff_not]
  omega

theorem joinSurrogates_cons_of_not_high {n : Nat} (h : isHighSurrogate n = false)
    (rest : List Nat) : joinSurrogates (n :: rest) = n :: joinSurrogates rest := by
  cases rest with
  | nil => rfl
  | cons m rest => simp [joinSurrogates, h]

theorem joinSurrogates_unitsOf_append (c : Char) (rest : List Nat) :
    joinSurrogates (unitsOf c ++ rest) = c.toNat :: joinSurrogates rest := by
  unfold unitsOf
  split
  · exact joinSurrogates_cons_of_not_high (isHighSurrogate_toNat c) rest
  · next h =>
    have hc : c.toNat < 0xD800 ∨ 0xDFFF < c.toNat ∧ c.toNat < 0x110000 := c.valid
    have hhigh : isHighSurrogate (0xD800 + (c.toNat - 0x10000) / 0x400) = true := by
      simp only [isHighSurrogate, Bool.and_eq_true, decide_eq_true_eq]
      omega
    have hlow : isLowSurrogate (0xDC00 + (c.toNat - 0x10000) % 0x400) = true := by
      simp only [isLowSurrogate, Bool.and_eq_true, decide_eq_true_eq]
      omega
    have hjoin : 0x10000 + (0xD800 + (c.toNat - 0x10000) / 0x400 - 0xD800) * 0x400 +
        (0xDC00 + (c.toNat - 0x10000) % 0x400 - 0xDC00) = c.toNat := by
      omega
    show joinSurrogates (_ :: _ :: rest) = _
    rw [joinSurrogates, hhigh, hlow]
    simp only [Bool.and_self, if_true]
    rw [hjoin]

/-- The units of a text, joined, are its code points. -/
theorem joinSurrogates_unitsOf (cs : List Char) :
    joinSurrogates (cs.flatMap unitsOf) = cs.map Char.toNat := by
  induction cs with
  | nil => rfl
  | cons c cs ih => rw [List.flatMap_cons, joinSurrogates_unitsOf_append, ih, List.map_cons]

/-- The sixteen-bit units of a text. -/
def units (s : String) : List Nat := s.toList.flatMap unitsOf

/-- The code points of a text. -/
def codePoints (s : String) : List Nat := s.toList.map Char.toNat

/-- A character of the basic plane, which has one unit. -/
def IsBasic (c : Char) : Prop := c.toNat < 0x10000

instance (c : Char) : Decidable (IsBasic c) := inferInstanceAs (Decidable (_ < _))

theorem isBasic_of_le {c : Char} (h : c.toNat ≤ 0x7E) : IsBasic c :=
  Nat.lt_of_le_of_lt h (by decide)

theorem unitsOf_of_isBasic {c : Char} (h : IsBasic c) : unitsOf c = [c.toNat] := if_pos h

theorem unitsOf_of_not_isBasic {c : Char} (h : ¬ IsBasic c) :
    unitsOf c = [0xD800 + (c.toNat - 0x10000) / 0x400, 0xDC00 + (c.toNat - 0x10000) % 0x400] :=
  if_neg h

/-- The units of a text are its code points just when all of its characters are basic. -/
theorem flatMap_unitsOf_iff {cs : List Char} :
    cs.flatMap unitsOf = cs.map Char.toNat ↔ ∀ c ∈ cs, IsBasic c := by
  induction cs with
  | nil => simp
  | cons c cs ih =>
    rw [List.flatMap_cons, List.map_cons, List.forall_mem_cons, ← ih]
    by_cases hc : IsBasic c
    · rw [unitsOf_of_isBasic hc, List.singleton_append, List.cons.injEq]
      exact ⟨fun h => ⟨hc, h.2⟩, fun h => ⟨rfl, h.2⟩⟩
    · refine ⟨fun h => ?_, fun h => absurd h.1 hc⟩
      -- the first half of a pair is a smaller number than the character
      have hvalid : c.toNat < 0xD800 ∨ 0xDFFF < c.toNat ∧ c.toNat < 0x110000 := c.valid
      have hplane : ¬ c.toNat < 0x10000 := hc
      rw [unitsOf_of_not_isBasic hc, List.cons_append, List.cons.injEq] at h
      omega

/-! ### The forms of a character -/

theorem unitsOf_lt (c : Char) : ∀ n ∈ unitsOf c, n < 0x10000 := by
  have hc : c.toNat < 0xD800 ∨ 0xDFFF < c.toNat ∧ c.toNat < 0x110000 := c.valid
  unfold unitsOf
  split
  · next h => exact List.forall_mem_singleton.2 h
  · exact List.forall_mem_cons.2 ⟨by omega, List.forall_mem_singleton.2 (by omega)⟩

/-- How a character is written inside a string: by a letter after a backslash, as itself, or by an
escape for each of its units. -/
inductive Spells (c : Char) : List Char → Prop
  | short (e : Char) (hu : e ≠ 'u') (h : shortEscape? e = some c) (hc : IsBasic c) :
    Spells c ['\\', e]
  | itself (h : 0x20 ≤ c.toNat ∧ c.toNat ≤ 0x7E) (hq : c ≠ '"') (hb : c ≠ '\\') : Spells c [c]
  | units : Spells c ((unitsOf c).flatMap unitEscape)

theorem spells_escapeChar (c : Char) : Spells c (escapeChar c) := by
  unfold escapeChar
  -- seven characters have a letter of their own
  iterate 7
    split
    · next h => subst h; exact .short _ (by decide) rfl (by decide)
  split
  · next hq hb _ _ _ _ _ h => exact .itself h hq hb
  split
  · next h =>
    have hu : unitEscape c.toNat = (unitsOf c).flatMap unitEscape := by
      rw [unitsOf_of_isBasic h, List.flatMap_singleton]
    rw [hu]
    exact .units
  · next h =>
    have hpair : unitEscape (0xD800 + (c.toNat - 0x10000) / 0x400) ++
        unitEscape (0xDC00 + (c.toNat - 0x10000) % 0x400) = (unitsOf c).flatMap unitEscape := by
      rw [unitsOf_of_not_isBasic h, List.flatMap_cons, List.flatMap_singleton]
    dsimp only
    rw [hpair]
    exact .units

/-! ### Hexadecimal digits -/

theorem hexDigit?_hexDigit : ∀ n < 16, hexDigit? (Text.hexDigit n) = some n := by decide

/-- Four hexadecimal digits hold a unit. -/
theorem fourHex?_hexDigits {n : Nat} (h : n < 0x10000) :
    ∃ a b c d, Text.hexDigits 4 n = [a, b, c, d] ∧ fourHex? a b c d = some n := by
  refine ⟨_, _, _, _, rfl, ?_⟩
  simp only [fourHex?, hexDigit?_hexDigit _ (Nat.mod_lt _ (by decide : 16 > 0)), Option.pure_def,
    Option.bind_eq_bind, Option.bind_some]
  congr 1
  omega

/-! ### The escape of a character -/

theorem stringUnits_unitEscape {n : Nat} (h : n < 0x10000) (opening : List Char) (x : Char)
    (rest : List Char) : stringUnits opening (unitEscape n ++ x :: rest) =
      (stringUnits opening (x :: rest)).map fun (units, rest) => (n :: units, rest) := by
  obtain ⟨a, b, c, d, hd, hn⟩ := fourHex?_hexDigits h
  simp only [unitEscape, hd, List.cons_append, List.nil_append]
  rw [stringUnits, hn]

/-- A short escape is read as the character it stands for. -/
theorem stringUnits_shortEscape {letter e : Char} (hu : letter ≠ 'u')
    (h : shortEscape? letter = some e) (opening rest : List Char) :
    stringUnits opening ('\\' :: letter :: rest) =
      (stringUnits opening rest).map fun (units, rest) => (e.toNat :: units, rest) := by
  rw [stringUnits, h]
  · intro a b c d x more he
    exact absurd he hu
  · exact hu

theorem stringUnits_plain {c : Char} (hq : c ≠ '"') (hb : c ≠ '\\') (hc : 0x20 ≤ c.toNat)
    (opening rest : List Char) : stringUnits opening (c :: rest) =
      (stringUnits opening rest).map fun (units, rest) => (c.toNat :: units, rest) := by
  rw [stringUnits, if_neg (Nat.not_lt.2 hc)]
  · exact hq
  -- the other forms all begin with a backslash
  all_goals
    intros
    contradiction

/-- Escapes of units are read as these units, whatever follows them.  Something does: at least the
closing quote. -/
theorem stringUnits_unitEscapes {ns : List Nat} (h : ∀ n ∈ ns, n < 0x10000) (opening : List Char)
    (x : Char) (rest : List Char) :
    stringUnits opening (ns.flatMap unitEscape ++ x :: rest) =
      (stringUnits opening (x :: rest)).map fun (units, rest) => (ns ++ units, rest) := by
  induction ns with
  | nil =>
    rw [List.flatMap_nil, List.nil_append]
    cases stringUnits opening (x :: rest) <;> rfl
  | cons n ns ih =>
    obtain ⟨hn, hns⟩ := List.forall_mem_cons.1 h
    obtain ⟨y, ys, hy⟩ := List.exists_cons_of_ne_nil
      (List.append_ne_nil_of_right_ne_nil (ns.flatMap unitEscape) (List.cons_ne_nil x rest))
    rw [List.flatMap_cons, List.append_assoc, hy, stringUnits_unitEscape hn, ← hy, ih hns]
    cases stringUnits opening (x :: rest) <;> rfl

/-- The escape of a character is read as its units. -/
theorem stringUnits_escapeChar (c : Char) (opening : List Char) (x : Char) (rest : List Char) :
    stringUnits opening (escapeChar c ++ x :: rest) =
      (stringUnits opening (x :: rest)).map fun (units, rest) => (unitsOf c ++ units, rest) := by
  have hspells := spells_escapeChar c
  generalize escapeChar c = cs at hspells ⊢
  cases hspells with
  | short e hu h hc =>
    rw [unitsOf_of_isBasic hc]
    exact stringUnits_shortEscape hu h _ _
  | itself h hq hb =>
    rw [unitsOf_of_isBasic (isBasic_of_le h.2)]
    exact stringUnits_plain hq hb h.1 _ _
  | units => exact stringUnits_unitEscapes (unitsOf_lt c) opening x rest

/-! ### Strings -/

theorem stringUnits_text (cs opening rest : List Char) :
    stringUnits opening (cs.flatMap escapeChar ++ '"' :: rest) =
      .ok (cs.flatMap unitsOf, rest) := by
  induction cs with
  | nil => exact stringUnits_quote opening rest
  | cons c cs ih =>
    -- at least the closing quote follows the character
    obtain ⟨x, more, hx⟩ := List.exists_cons_of_ne_nil
      (List.append_ne_nil_of_right_ne_nil (cs.flatMap escapeChar) (List.cons_ne_nil '"' rest))
    rw [List.flatMap_cons, List.append_assoc, hx, stringUnits_escapeChar, ← hx, ih,
      List.flatMap_cons]
    rfl

/-- A written string, after its opening quote, is read as the code points of its text. -/
theorem stringBody_text (cs rest : List Char) :
    stringBody (cs.flatMap escapeChar ++ '"' :: rest) = .ok (cs.map Char.toNat, rest) := by
  rw [stringBody, stringUnits_text]
  show Except.ok (joinSurrogates (cs.flatMap unitsOf), rest) = _
  rw [joinSurrogates_unitsOf]

theorem all_isScalar_toNat (cs : List Char) : (cs.map Char.toNat).all isScalar = true := by
  rw [List.all_map, List.all_eq_true]
  intro c _
  exact isScalar_toNat c

theorem map_ofNat_map_toNat (cs : List Char) : (cs.map Char.toNat).map Char.ofNat = cs := by
  rw [List.map_map, List.map_congr_left (g := id), List.map_id]
  intro c _
  exact Char.ofNat_toNat c

/-- A text of the basic plane. -/
def IsBasicText (s : String) : Prop := ∀ c ∈ s.toList, IsBasic c

instance (s : String) : Decidable (IsBasicText s) := List.decidableBAll IsBasic s.toList

theorem units_eq_codePoints {s : String} : units s = codePoints s ↔ IsBasicText s :=
  flatMap_unitsOf_iff

/-- The text of the code points of a text is that text. -/
theorem replaceUnpaired_codePoints (s : String) : replaceUnpaired (codePoints s) = s := by
  have hcharacters : characters (codePoints s) = s.toList := by
    unfold characters codePoints
    rw [List.map_map, List.map_congr_left (g := id), List.map_id]
    intro c _
    show (if isScalar c.toNat then Char.ofNat c.toNat else '\uFFFD') = c
    rw [if_pos (isScalar_toNat c), Char.ofNat_toNat]
  rw [replaceUnpaired, hcharacters, String.ofList_toList]

/-- The code points of a text are those of that text and of no other string. -/
theorem ofCodePoints_toNat (s : String) : ofCodePoints (s.toList.map Char.toNat) = .string s := by
  rw [ofCodePoints, if_pos (all_isScalar_toNat _), map_ofNat_map_toNat, String.ofList_toList]

/-- The same for the name of a member. -/
theorem Name.ofCodePoints_toNat (s : String) :
    Name.ofCodePoints (s.toList.map Char.toNat) = .text s := by
  rw [Name.ofCodePoints, if_pos (all_isScalar_toNat _), map_ofNat_map_toNat, String.ofList_toList]

end ApiScribe.Json
