import ApiScribe.Text.Utf8

/-!
# Text in files and back

A text that is written as UTF-8 is read as the same characters (`decodeUtf8_encodeUtf8`).  What the
reading of a file does to line ends changes nothing in a text without carriage returns
(`unifyLineEnds_eq_self`).
-/

namespace ApiScribe.Text

variable {n : Nat} {b low high : UInt8} {rest : List UInt8}

theorem toNat_toUInt8 (h : n < 0x100) : n.toUInt8.toNat = n := by
  rw [Nat.toUInt8_eq, UInt8.toNat_ofNat']
  exact Nat.mod_eq_of_lt h

/-! ### Lead bytes

The decoder tells sequences apart by ranges of the first byte, the encoder by ranges of the
character. -/

theorem leadByte?_one (h : n < 0x80) : leadByte? n.toUInt8 = some (0, n, 0x80, 0xBF) := by
  have hn := toNat_toUInt8 (n := n) (by omega)
  simp only [leadByte?, UInt8.lt_iff_toNat_lt, hn, UInt8.reduceToNat, h, if_true]

theorem leadByte?_two (hlow : 2 ≤ n) (hhigh : n < 0x20) :
    leadByte? (0xC0 + n).toUInt8 = some (1, n, 0x80, 0xBF) := by
  have hn := toNat_toUInt8 (n := 0xC0 + n) (by omega)
  have h₁ : ¬ 0xC0 + n < 0x80 := by omega
  have h₂ : ¬ 0xC0 + n < 0xC2 := by omega
  have h₃ : 0xC0 + n < 0xE0 := by omega
  have hpayload : (0xC0 + n) % 0x20 = n := by omega
  simp only [leadByte?, UInt8.lt_iff_toNat_lt, hn, UInt8.reduceToNat, h₁, h₂, h₃, if_true,
    if_false, hpayload]

/-- The lead byte of a sequence of three bytes, and the range of the byte after it. -/
theorem leadByte?_three (h : n < 0x10) : leadByte? (0xE0 + n).toUInt8 =
    some (2, n, if n = 0 then 0xA0 else 0x80, if n = 0xD then 0x9F else 0xBF) := by
  have hn := toNat_toUInt8 (n := 0xE0 + n) (by omega)
  have h₁ : ¬ 0xE0 + n < 0x80 := by omega
  have h₂ : ¬ 0xE0 + n < 0xC2 := by omega
  have h₃ : ¬ 0xE0 + n < 0xE0 := by omega
  have h₄ : 0xE0 + n < 0xF0 := by omega
  have hpayload : (0xE0 + n) % 0x10 = n := by omega
  have hfirst : 0xE0 + n = 0xE0 ↔ n = 0 := by omega
  have hsurrogates : 0xE0 + n = 0xED ↔ n = 0xD := by omega
  simp only [leadByte?, UInt8.lt_iff_toNat_lt, beq_iff_eq, ← UInt8.toNat_inj, hn,
    UInt8.reduceToNat, h₁, h₂, h₃, h₄, if_true, if_false, hpayload, hfirst, hsurrogates]

/-- The lead byte of a sequence of four bytes, and the range of the byte after it. -/
theorem leadByte?_four (h : n < 5) : leadByte? (0xF0 + n).toUInt8 =
    some (3, n, if n = 0 then 0x90 else 0x80, if n = 4 then 0x8F else 0xBF) := by
  have hn := toNat_toUInt8 (n := 0xF0 + n) (by omega)
  have h₁ : ¬ 0xF0 + n < 0x80 := by omega
  have h₂ : ¬ 0xF0 + n < 0xC2 := by omega
  have h₃ : ¬ 0xF0 + n < 0xE0 := by omega
  have h₄ : ¬ 0xF0 + n < 0xF0 := by omega
  have h₅ : 0xF0 + n < 0xF5 := by omega
  have hpayload : (0xF0 + n) % 0x08 = n := by omega
  have hfirst : 0xF0 + n = 0xF0 ↔ n = 0 := by omega
  have hlast : 0xF0 + n = 0xF4 ↔ n = 4 := by omega
  simp only [leadByte?, UInt8.lt_iff_toNat_lt, beq_iff_eq, ← UInt8.toNat_inj, hn,
    UInt8.reduceToNat, h₁, h₂, h₃, h₄, h₅, if_true, if_false, hpayload, hfirst, hlast]

/-! ### Continuation bytes -/

/-- A continuation byte in range gives six more bits. -/
theorem continuation_cons {count acc : Nat} {r : Nat × List UInt8} (hn : n < 0x40)
    (hlow : low.toNat ≤ 0x80 + n) (hhigh : 0x80 + n ≤ high.toNat)
    (h : continuation 0x80 0xBF count (acc * 0x40 + n) rest = .ok r) :
    continuation low high (count + 1) acc ((0x80 + n).toUInt8 :: rest) = .ok r := by
  have hb := toNat_toUInt8 (n := 0x80 + n) (by omega)
  have hbits : (0x80 + n) % 0x40 = n := by omega
  have hrange : low ≤ (0x80 + n).toUInt8 ∧ (0x80 + n).toUInt8 ≤ high := by
    rw [UInt8.le_iff_toNat_le, UInt8.le_iff_toNat_le, hb]
    exact ⟨hlow, hhigh⟩
  rw [continuation, if_pos hrange, hb, hbits, h]

/-- After the first one a continuation byte may have any six bits. -/
theorem continuation_cons_any {count acc : Nat} {r : Nat × List UInt8} (hn : n < 0x40)
    (h : continuation 0x80 0xBF count (acc * 0x40 + n) rest = .ok r) :
    continuation 0x80 0xBF (count + 1) acc ((0x80 + n).toUInt8 :: rest) = .ok r := by
  refine continuation_cons hn (Nat.le_add_right _ _) ?_ h
  show 0x80 + n ≤ 0xBF
  omega

/-! ### Characters -/

/-- The bytes are one sequence that encodes a character, whatever follows them. -/
def IsSequence (bytes : List UInt8) (c : Char) : Prop :=
  ∀ fuel start rest, decodeFrom (fuel + 1) start (bytes ++ rest) =
    (decodeFrom fuel (start + bytes.length) rest).map (c :: ·)

/-- A lead byte and the continuation bytes that it asks for are a sequence. -/
theorem isSequence_cons {count payload : Nat} {bytes : List UInt8} {c : Char}
    (hlead : leadByte? b = some (count, payload, low, high)) (hlength : bytes.length = count)
    (h : ∀ rest, continuation low high count payload (bytes ++ rest) = .ok (c.toNat, rest)) :
    IsSequence (b :: bytes) c := by
  intro fuel start rest
  rw [List.cons_append, decodeFrom, hlead]
  dsimp only
  rw [h rest, List.length_cons, hlength, ← Nat.add_assoc]
  dsimp only
  rw [Char.ofNat_toNat]
  cases decodeFrom fuel (start + count + 1) rest <;> rfl

/-- The range of a byte is narrowed at one lead byte only, where the byte keeps to it anyway. -/
theorem toNat_ite_le {p : Prop} [Decidable p] (hb : p → b.toNat ≤ n) (hlow : low.toNat ≤ n) :
    (if p then b else low).toNat ≤ n := by
  split
  · next hp => exact hb hp
  · exact hlow

@[inherit_doc toNat_ite_le]
theorem le_toNat_ite {p : Prop} [Decidable p] (hb : p → n ≤ b.toNat) (hhigh : n ≤ high.toNat) :
    n ≤ (if p then b else high).toNat := by
  split
  · next hp => exact hb hp
  · exact hhigh

section
variable {c : Char}

theorem isSequence_two (hlow : ¬ c.toNat < 0x80) (hhigh : c.toNat < 0x800) :
    IsSequence [(0xC0 + c.toNat / 0x40).toUInt8, (0x80 + c.toNat % 0x40).toUInt8] c := by
  have hlead := leadByte?_two (n := c.toNat / 0x40) (by omega) (by omega)
  refine isSequence_cons hlead rfl fun rest => continuation_cons_any (by omega) ?_
  have hbits : c.toNat / 0x40 * 0x40 + c.toNat % 0x40 = c.toNat := by omega
  rw [hbits, continuation]
  rfl

/-- Neither a character that needs fewer bytes nor a surrogate is encoded in three of them. -/
theorem isSequence_three (hlow : ¬ c.toNat < 0x800) (hhigh : c.toNat < 0x10000) :
    IsSequence [(0xE0 + c.toNat / 0x1000).toUInt8, (0x80 + c.toNat / 0x40 % 0x40).toUInt8,
      (0x80 + c.toNat % 0x40).toUInt8] c := by
  have hvalid : c.toNat < 0xD800 ∨ 0xDFFF < c.toNat ∧ c.toNat < 0x110000 := c.valid
  have hlead := leadByte?_three (n := c.toNat / 0x1000) (by omega)
  refine isSequence_cons hlead rfl fun rest => ?_
  have hfirst : c.toNat / 0x1000 = 0 → 0xA0 ≤ 0x80 + c.toNat / 0x40 % 0x40 := by omega
  have hlast : c.toNat / 0x1000 = 0xD → 0x80 + c.toNat / 0x40 % 0x40 ≤ 0x9F := by omega
  have hmost : 0x80 + c.toNat / 0x40 % 0x40 ≤ 0xBF := by omega
  refine continuation_cons (by omega) (toNat_ite_le hfirst (Nat.le_add_right _ _))
    (le_toNat_ite hlast hmost) (continuation_cons_any (by omega) ?_)
  have hbits : (c.toNat / 0x1000 * 0x40 + c.toNat / 0x40 % 0x40) * 0x40 + c.toNat % 0x40 =
      c.toNat := by omega
  rw [hbits, continuation]
  rfl

/-- Neither a character that needs fewer bytes nor one beyond the last plane is encoded in four. -/
theorem isSequence_four (hlow : ¬ c.toNat < 0x10000) :
    IsSequence [(0xF0 + c.toNat / 0x40000).toUInt8, (0x80 + c.toNat / 0x1000 % 0x40).toUInt8,
      (0x80 + c.toNat / 0x40 % 0x40).toUInt8, (0x80 + c.toNat % 0x40).toUInt8] c := by
  have hvalid : c.toNat < 0xD800 ∨ 0xDFFF < c.toNat ∧ c.toNat < 0x110000 := c.valid
  have hlead := leadByte?_four (n := c.toNat / 0x40000) (by omega)
  refine isSequence_cons hlead rfl fun rest => ?_
  have hfirst : c.toNat / 0x40000 = 0 → 0x90 ≤ 0x80 + c.toNat / 0x1000 % 0x40 := by omega
  have hlast : c.toNat / 0x40000 = 4 → 0x80 + c.toNat / 0x1000 % 0x40 ≤ 0x8F := by omega
  have hmost : 0x80 + c.toNat / 0x1000 % 0x40 ≤ 0xBF := by omega
  refine continuation_cons (by omega) (toNat_ite_le hfirst (Nat.le_add_right _ _))
    (le_toNat_ite hlast hmost)
    (continuation_cons_any (by omega) (continuation_cons_any (by omega) ?_))
  have hbits : ((c.toNat / 0x40000 * 0x40 + c.toNat / 0x1000 % 0x40) * 0x40 +
      c.toNat / 0x40 % 0x40) * 0x40 + c.toNat % 0x40 = c.toNat := by omega
  rw [hbits, continuation]
  rfl

end

/-- The bytes of a character are a sequence: the encoder never gives a second byte out of the range
that the lead byte asks for, since characters are neither beyond the last plane nor surrogates. -/
theorem isSequence_encodeChar (c : Char) : IsSequence (encodeChar c) c := by
  unfold encodeChar
  dsimp only
  split
  · next h => exact isSequence_cons (leadByte?_one h) rfl fun rest => rfl
  · next hone =>
    split
    · next h => exact isSequence_two hone h
    · next htwo =>
      split
      · next h => exact isSequence_three htwo h
      · next hthree => exact isSequence_four hthree

/-! ### Texts -/

theorem length_encodeChar_pos (c : Char) : 0 < (encodeChar c).length := by
  unfold encodeChar
  dsimp only
  split
  · exact Nat.zero_lt_succ _
  · split
    · exact Nat.zero_lt_succ _
    · split <;> exact Nat.zero_lt_succ _

/-- Enough fuel decodes all characters, from any position on. -/
theorem decodeFrom_encodeUtf8 (cs : List Char) {fuel : Nat} (start : Nat)
    (hfuel : (encodeUtf8 cs).length ≤ fuel) : decodeFrom fuel start (encodeUtf8 cs) = .ok cs := by
  induction cs generalizing fuel start with
  | nil => cases fuel <;> rfl
  | cons c cs ih =>
    have hbytes : encodeUtf8 (c :: cs) = encodeChar c ++ encodeUtf8 cs := List.flatMap_cons
    have hpos := length_encodeChar_pos c
    rw [hbytes, List.length_append] at hfuel
    -- a character has at least one byte, so what is left of the fuel is enough for the others
    obtain ⟨fuel, rfl⟩ := Nat.exists_eq_add_of_le' (Nat.le_trans (by omega : 1 ≤ _) hfuel)
    rw [hbytes, isSequence_encodeChar, ih _ (by omega)]
    rfl

/-- What is decoded from the bytes of a text is that text. -/
theorem decodeUtf8_encodeUtf8 (cs : List Char) : decodeUtf8 (encodeUtf8 cs) = .ok cs :=
  decodeFrom_encodeUtf8 cs 0 (Nat.le_refl _)

/-- Line ends are those of a text without carriage returns already. -/
theorem unifyLineEnds_eq_self {cs : List Char} (h : '\r' ∉ cs) : unifyLineEnds cs = cs := by
  fun_induction unifyLineEnds cs with
  | case1 => rfl
  | case2 => exact absurd List.mem_cons_self h
  | case3 => exact absurd List.mem_cons_self h
  | case4 c cs _ _ ih =>
    rw [ih fun hm => h (List.mem_cons_of_mem c hm)]

end ApiScribe.Text
