import ApiScribe.Proofs.Json.Values

/-!
# The characters of a written value

A value made of texts is written with printable ASCII and breaks, whatever its strings hold
(`isWritten_text`).  So its text has no carriage return.
-/

namespace ApiScribe.Json

/-- A printable character of ASCII. -/
def IsPlain (c : Char) : Prop := 0x20 ≤ c.toNat ∧ c.toNat ≤ 0x7E

instance (c : Char) : Decidable (IsPlain c) := inferInstanceAs (Decidable (_ ∧ _))

/-- A character that is written: a break, or a printable one of ASCII. -/
def IsWritten (c : Char) : Prop := c = '\n' ∨ IsPlain c

instance (c : Char) : Decidable (IsWritten c) := inferInstanceAs (Decidable (_ ∨ _))

/-! ### Strings -/

theorem isPlain_hexDigit : ∀ n < 16, IsPlain (Text.hexDigit n) := by decide

theorem isPlain_hexDigits (width n : Nat) : ∀ c ∈ Text.hexDigits width n, IsPlain c := by
  induction width generalizing n with
  | zero => exact List.forall_mem_nil _
  | succ width ih =>
    have hlast : ∀ c ∈ [Text.hexDigit (n % 16)], IsPlain c :=
      List.forall_mem_singleton.2 (isPlain_hexDigit _ (Nat.mod_lt _ (by decide)))
    exact List.forall_mem_append.2 ⟨ih _, hlast⟩

theorem isPlain_unitEscape (n : Nat) : ∀ c ∈ unitEscape n, IsPlain c := by
  unfold unitEscape
  rw [List.forall_mem_cons, List.forall_mem_cons]
  exact ⟨by decide, by decide, isPlain_hexDigits 4 n⟩

theorem isPlain_of_shortEscape? {e c : Char} (h : shortEscape? e = some c) : IsPlain e := by
  unfold shortEscape? at h
  split at h
  all_goals first | decide | cases h

theorem isPlain_escapeChar (c : Char) : ∀ x ∈ escapeChar c, IsPlain x := by
  have hspells := spells_escapeChar c
  -- by the three spellings of a character, not by the tests that choose among them
  generalize escapeChar c = cs at hspells ⊢
  cases hspells with
  | short e _ h _ =>
    exact List.forall_mem_cons.2 ⟨by decide,
      List.forall_mem_singleton.2 (isPlain_of_shortEscape? h)⟩
  | itself h _ _ => exact List.forall_mem_singleton.2 h
  | units =>
    intro x hx
    obtain ⟨n, -, hx⟩ := List.mem_flatMap.1 hx
    exact isPlain_unitEscape n x hx

/-- A string is written on one line. -/
theorem isPlain_stringText (cs : List Char) : ∀ x ∈ stringText cs, IsPlain x := by
  have hquote : IsPlain '"' := by decide
  unfold stringText
  rw [List.forall_mem_cons, List.forall_mem_append, List.forall_mem_singleton]
  refine ⟨hquote, ?_, hquote⟩
  intro x hx
  obtain ⟨c, -, hx⟩ := List.mem_flatMap.1 hx
  exact isPlain_escapeChar c x hx

theorem isWritten_stringText (cs : List Char) : ∀ x ∈ stringText cs, IsWritten x :=
  fun x hx => .inr (isPlain_stringText cs x hx)

/-! ### Values -/

theorem isWritten_pair {a b : Char} (ha : IsWritten a) (hb : IsWritten b) :
    ∀ x ∈ [a, b], IsWritten x :=
  List.forall_mem_cons.2 ⟨ha, List.forall_mem_singleton.2 hb⟩

section
variable {v : Json} (indent : Option Nat)

theorem isWritten_lineBreak (depth : Nat) : ∀ x ∈ lineBreak indent depth, IsWritten x := by
  cases indent with
  | none => exact List.forall_mem_nil _
  | some width =>
    refine List.forall_mem_cons.2 ⟨by decide, ?_⟩
    intro x hx
    rw [List.eq_of_mem_replicate hx]
    decide

theorem isWritten_separator (depth : Nat) : ∀ x ∈ separator indent depth, IsWritten x := by
  cases indent with
  | none => exact isWritten_pair (by decide) (by decide)
  | some width => exact List.forall_mem_cons.2 ⟨by decide, isWritten_lineBreak _ depth⟩

theorem isWritten_moreItems {vs : List Json} {depth : Nat}
    (h : ∀ v ∈ vs, ∀ x ∈ textAt indent depth v, IsWritten x) :
    ∀ x ∈ moreItems indent depth vs, IsWritten x := by
  induction vs with
  | nil => exact List.forall_mem_nil _
  | cons v vs ih =>
    obtain ⟨hv, hvs⟩ := List.forall_mem_cons.1 h
    rw [moreItems, List.forall_mem_append, List.forall_mem_append]
    exact ⟨⟨isWritten_separator indent depth, hv⟩, ih hvs⟩

/-- A name, what stands between it and its value, and the value. -/
theorem isWritten_named {name : String} {rest : List Char} (h : ∀ x ∈ rest, IsWritten x) :
    ∀ x ∈ (Name.text name).written ++ ':' :: ' ' :: rest, IsWritten x := by
  rw [List.forall_mem_append, List.forall_mem_cons, List.forall_mem_cons]
  exact ⟨isWritten_stringText _, by decide, by decide, h⟩

theorem isWritten_moreMembers {ms : List (String × Json)} {depth : Nat}
    (h : ∀ m ∈ ms, ∀ x ∈ textAt indent depth m.2, IsWritten x) :
    ∀ x ∈ moreMembers indent depth (ms.map fun m => (.text m.1, m.2)), IsWritten x := by
  induction ms with
  | nil => exact List.forall_mem_nil _
  | cons m ms ih =>
    obtain ⟨hm, hms⟩ := List.forall_mem_cons.1 h
    rw [List.map_cons, moreMembers, List.append_assoc, List.forall_mem_append]
    exact ⟨isWritten_separator indent depth,
      isWritten_named (List.forall_mem_append.2 ⟨hm, ih hms⟩)⟩

/-- A value made of texts is written with printable ASCII and breaks at any depth. -/
theorem isWritten_textAt {levels : Nat} (h : Textual levels v) (depth : Nat) :
    ∀ x ∈ textAt indent depth v, IsWritten x := by
  induction h generalizing depth with
  | string s =>
    rw [textAt]
    exact isWritten_stringText _
  | @array _ vs _ ih =>
    cases vs with
    | nil =>
      rw [textAt]
      exact isWritten_pair (by decide) (by decide)
    | cons v vs =>
      obtain ⟨hv, hvs⟩ := List.forall_mem_cons.1 ih
      rw [textAt]
      simp only [List.forall_mem_cons, List.forall_mem_append]
      exact ⟨by decide, ⟨⟨⟨isWritten_lineBreak _ _, hv _⟩,
        isWritten_moreItems indent fun u hu => hvs u hu _⟩, isWritten_lineBreak _ _⟩,
        by decide, List.forall_mem_nil _⟩
  | @object _ ms _ _ ih =>
    cases ms with
    | nil =>
      rw [List.map_nil, textAt]
      exact isWritten_pair (by decide) (by decide)
    | cons m ms =>
      obtain ⟨hm, hms⟩ := List.forall_mem_cons.1 ih
      have hmembers : ∀ x ∈ textAt indent (depth + 1) m.2 ++
          moreMembers indent (depth + 1) (ms.map fun m => (.text m.1, m.2)) ++
          lineBreak indent depth ++ ['}'], IsWritten x := by
        simp only [List.forall_mem_append]
        exact ⟨⟨⟨hm _, isWritten_moreMembers indent fun n hn => hms n hn _⟩,
          isWritten_lineBreak _ _⟩, List.forall_mem_singleton.2 (by decide)⟩
      rw [List.map_cons, textAt, List.append_assoc, List.forall_mem_cons, List.forall_mem_append]
      exact ⟨by decide, isWritten_lineBreak _ _, isWritten_named hmembers⟩

/-- A value made of texts is written with printable ASCII and breaks. -/
theorem isWritten_text {levels : Nat} (h : Textual levels v) : ∀ x ∈ text indent v, IsWritten x :=
  isWritten_textAt indent h 0

end

end ApiScribe.Json
