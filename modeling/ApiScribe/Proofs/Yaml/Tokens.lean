import ApiScribe.Proofs.Yaml.Scanning

/-!
# The tokens of a JSON value

Brackets, commas and colons are the same marks in both notations, so a JSON value is a flow
collection of YAML, and each name in it is a key that needs no indicator.  The space between the
tokens, whatever the indent, does not count.

Main statement: `tokenize_text` — the tokens of the text of a value are the tokens of the value.
-/

namespace ApiScribe.Yaml

open Json (Textual stringText unitsOf textAt moreItems moreMembers lineBreak separator)
open Scanner (Ends IsSpace StartsToken textToken)

/-! ### Values that both notations can hold -/

/-- The name has no character that JSON writes with two escapes, and is short enough to be found as
a key. -/
structure IsKey (name : String) : Prop where
  basic : Json.IsBasicText name
  short : (stringText name.toList).length ≤ 1024

instance (name : String) : Decidable (IsKey name) :=
  decidable_of_iff (Json.IsBasicText name ∧ (stringText name.toList).length ≤ 1024)
    ⟨fun h => ⟨h.1, h.2⟩, fun h => ⟨h.basic, h.short⟩⟩

/-- The value is built from texts alone, in at most so many levels: it is a text, an array of such
values, or an object of such values under distinct keys. -/
inductive Legible : Nat → Json → Prop
  | string {n : Nat} (s : String) : Legible (n + 1) (.string s)
  | array {n : Nat} {vs : List Json} (h : ∀ v ∈ vs, Legible n v) : Legible (n + 1) (.array vs)
  | object {n : Nat} {ms : List (String × Json)} (hn : (ms.map Prod.fst).Nodup)
      (hk : ∀ m ∈ ms, IsKey m.1) (h : ∀ m ∈ ms, Legible n m.2) :
    Legible (n + 1) (.object (ms.map fun m => (.text m.1, m.2)))

theorem Legible.textual {n : Nat} {v : Json} (h : Legible n v) : Textual n v := by
  induction h with
  | string s => exact .string s
  | array _ ih => exact .array ih
  | object hn _ _ ih => exact .object hn ih

/-! ### Tokens -/

mutual

/-- The tokens of a value. -/
def tokensOf : Json → List Token
  | .string s => [textToken s.toList]
  | .array [] => [.flowSequenceStart, .flowSequenceEnd]
  | .array (v :: vs) =>
    .flowSequenceStart :: (tokensOf v ++ (moreItemTokens vs ++ [.flowSequenceEnd]))
  | .object [] => [.flowMappingStart, .flowMappingEnd]
  | .object ((name, v) :: ms) =>
    .flowMappingStart :: .key :: textToken name.toText.toList :: .value ::
      (tokensOf v ++ (moreMemberTokens ms ++ [.flowMappingEnd]))
  | _ => []

/-- The tokens of the items after the first. -/
def moreItemTokens : List Json → List Token
  | [] => []
  | v :: vs => .flowEntry :: (tokensOf v ++ moreItemTokens vs)

/-- The tokens of the members after the first. -/
def moreMemberTokens : List (Json.Name × Json) → List Token
  | [] => []
  | (name, v) :: ms =>
    .flowEntry :: .key :: textToken name.toText.toList :: .value ::
      (tokensOf v ++ moreMemberTokens ms)

end

/-! ### Space between tokens -/

section
variable (indent : Option Nat) {level : Nat} {b : Bool} {tokens ts : List Token} {rest : List Char}

theorem isSpace_lineBreak (depth : Nat) : IsSpace (lineBreak indent depth) := by
  cases indent with
  | none => exact List.forall_mem_nil _
  | some width =>
    refine List.forall_mem_cons.2 ⟨.inr rfl, fun c hc => .inl ?_⟩
    exact List.eq_of_mem_replicate hc

/-- A separator is a comma and space. -/
theorem separator_eq (depth : Nat) :
    ∃ gap, separator indent depth = ',' :: gap ∧ IsSpace gap := by
  cases indent with
  | none => exact ⟨[' '], rfl, List.forall_mem_singleton.2 (.inl rfl)⟩
  | some width => exact ⟨lineBreak (some width) depth, rfl, isSpace_lineBreak _ depth⟩

/-- The rule for a gap before a value. -/
theorem Ends.gap_value {k : Nat} {v : Json} {gap : List Char} (hv : Textual k v) (depth : Nat)
    (hgap : IsSpace gap) (h : Ends (textAt indent depth v ++ rest) (level + 1) b tokens ts) :
    Ends (gap ++ (textAt indent depth v ++ rest)) (level + 1) b tokens ts := by
  obtain ⟨c, cs, hc, ho⟩ := hv.head indent depth
  have hstart : StartsToken c := by
    rcases ho with rfl | rfl | rfl <;> decide
  rw [hc, List.cons_append] at h ⊢
  exact h.gap hgap hstart

/-- The rule for a gap before a name. -/
theorem Ends.gap_string {cs gap : List Char} (hgap : IsSpace gap)
    (h : Ends (stringText cs ++ rest) (level + 1) b tokens ts) :
    Ends (gap ++ (stringText cs ++ rest)) (level + 1) b tokens ts :=
  h.gap hgap (by decide)

/-! ### Values -/

/-- A scan that goes on behind the text of the value goes on before it, too. -/
def Scans (depth level : Nat) (v : Json) : Prop :=
  ∀ {b : Bool} {tokens ts : List Token} {rest : List Char},
    Ends rest level false ((tokensOf v).reverse ++ tokens) ts →
      Ends (textAt indent depth v ++ rest) level b tokens ts

/-- The items of an array, with the bracket after them. -/
theorem ends_items {k : Nat} {v : Json} {vs : List Json} {depth outer : Nat}
    (ht : ∀ u ∈ v :: vs, Textual k u) (hs : ∀ u ∈ v :: vs, Scans indent depth (level + 1) u)
    (h : Ends rest level false
      (.flowSequenceEnd :: ((moreItemTokens vs).reverse ++ ((tokensOf v).reverse ++ tokens))) ts) :
    Ends (textAt indent depth v ++
      (moreItems indent depth vs ++ (lineBreak indent outer ++ ']' :: rest)))
      (level + 1) b tokens ts := by
  -- the last item stands before the bracket, every other one before a comma
  induction vs generalizing v b tokens with
  | nil =>
    refine hs v List.mem_cons_self ?_
    rw [moreItems, List.nil_append]
    exact h.closeSequence.gap (isSpace_lineBreak indent outer) (by decide)
  | cons u us ih =>
    obtain ⟨gap, hsep, hgap⟩ := separator_eq indent depth
    have ht' : ∀ w ∈ u :: us, Textual k w := fun w hw => ht w (List.mem_cons_of_mem v hw)
    have hs' : ∀ w ∈ u :: us, Scans indent depth (level + 1) w :=
      fun w hw => hs w (List.mem_cons_of_mem v hw)
    refine hs v List.mem_cons_self ?_
    rw [moreItems, hsep]
    simp only [List.cons_append, List.append_assoc]
    refine Ends.comma (Ends.gap_value indent (ht' u List.mem_cons_self) depth hgap ?_)
    refine ih ht' hs' ?_
    simpa [moreItemTokens] using h

/-- A name, and the value after the colon and a space. -/
theorem ends_named {k : Nat} {m : String × Json} {depth : Nat} (hk : IsKey m.1)
    (ht : Textual k m.2)
    (hs : Scans indent depth (level + 1) m.2)
    (h : Ends rest (level + 1) false
      ((tokensOf m.2).reverse ++ .value :: textToken m.1.toList :: .key :: tokens) ts) :
    Ends (stringText m.1.toList ++ ':' :: ' ' :: (textAt indent depth m.2 ++ rest))
      (level + 1) true tokens ts := by
  have hspace : IsSpace [' '] := List.forall_mem_singleton.2 (.inl rfl)
  exact Ends.name hk.short (Ends.gap_value indent ht depth hspace (hs h))

/-- The members of an object, with the bracket after them. -/
theorem ends_members {k : Nat} {m : String × Json} {ms : List (String × Json)} {depth outer : Nat}
    (hk : ∀ n ∈ m :: ms, IsKey n.1) (ht : ∀ n ∈ m :: ms, Textual k n.2)
    (hs : ∀ n ∈ m :: ms, Scans indent depth (level + 1) n.2)
    (h : Ends rest level false (.flowMappingEnd ::
      ((moreMemberTokens (ms.map fun m => (.text m.1, m.2))).reverse ++
        ((tokensOf m.2).reverse ++ .value :: textToken m.1.toList :: .key :: tokens))) ts) :
    Ends (stringText m.1.toList ++ ':' :: ' ' :: (textAt indent depth m.2 ++
      (moreMembers indent depth (ms.map fun m => (.text m.1, m.2)) ++
        (lineBreak indent outer ++ '}' :: rest)))) (level + 1) true tokens ts := by
  have hm := List.mem_cons_self (a := m) (l := ms)
  induction ms generalizing m tokens with
  | nil =>
    refine ends_named indent (hk m hm) (ht m hm) (hs m hm) ?_
    rw [List.map_nil, moreMembers, List.nil_append]
    exact h.closeMapping.gap (isSpace_lineBreak indent outer) (by decide)
  | cons n ns ih =>
    obtain ⟨gap, hsep, hgap⟩ := separator_eq indent depth
    refine ends_named indent (hk m hm) (ht m hm) (hs m hm) ?_
    rw [List.map_cons, moreMembers, hsep]
    simp only [Json.Name.written, List.cons_append, List.append_assoc]
    refine Ends.comma (Ends.gap_string hgap (ih (fun k hk' => hk k (List.mem_cons_of_mem m hk'))
      (fun k hk' => ht k (List.mem_cons_of_mem m hk'))
      (fun k hk' => hs k (List.mem_cons_of_mem m hk')) ?_ List.mem_cons_self))
    simpa [moreMemberTokens, Json.Name.toText] using h

/-- The text of a value takes the scan over the tokens of the value, whatever the indent. -/
theorem scans_textAt {n : Nat} {v : Json} (h : Legible n v) (depth : Nat) (level : Nat) :
    Scans indent depth level v := by
  intro b tokens ts rest hrest
  induction h generalizing depth level b tokens ts rest with
  | string s =>
    rw [textAt]
    exact Ends.string hrest
  | @array n vs hvs ih =>
    cases vs with
    | nil =>
      rw [textAt]
      exact Ends.openSequence (Ends.closeSequence hrest)
    | cons v vs =>
      rw [textAt]
      simp only [List.cons_append, List.append_assoc, List.nil_append]
      refine Ends.openSequence (Ends.gap_value indent (hvs v List.mem_cons_self).textual (depth + 1)
        (isSpace_lineBreak indent (depth + 1)) ?_)
      refine ends_items indent (fun u hu => (hvs u hu).textual) (fun u hu => ih u hu _ _) ?_
      simpa [tokensOf] using hrest
  | @object n ms hn hk hms ih =>
    cases ms with
    | nil =>
      rw [List.map_nil, textAt]
      exact Ends.openMapping (Ends.closeMapping hrest)
    | cons m ms =>
      rw [List.map_cons, textAt]
      simp only [Json.Name.written, List.cons_append, List.append_assoc, List.nil_append]
      refine Ends.openMapping (Ends.gap_string (isSpace_lineBreak indent (depth + 1)) ?_)
      refine ends_members indent hk (fun u hu => (hms u hu).textual) (fun u hu => ih u hu _ _) ?_
      simpa [tokensOf, Json.Name.toText] using hrest

theorem isPrintable_of_isWritten {c : Char} (h : Json.IsWritten c) : isPrintable c = true := by
  rcases h with rfl | ⟨hlow, hhigh⟩
  · decide
  · unfold isPrintable
    simp only [hlow, hhigh, decide_true, Bool.and_self, Bool.or_true, Bool.true_or]

theorem stands_start (text : List Char) : (Scanner.start text).Stands text 0 true [] :=
  ⟨rfl, rfl, rfl, rfl, rfl, rfl, List.forall_mem_nil _⟩

/-- The tokens of the text of a value are the tokens of the value. -/
theorem tokenize_text {n : Nat} {v : Json} (h : Legible n v) :
    tokenize (Json.text indent v) = .ok (tokensOf v ++ [.streamEnd]) := by
  have hprintable : (Json.text indent v).all isPrintable = true := by
    rw [List.all_eq_true]
    intro c hc
    exact isPrintable_of_isWritten (Json.isWritten_text indent h.textual c hc)
  have hmark : ((Json.text indent v).head? == some '\uFEFF') = false := by
    obtain ⟨c, cs, hc, ho⟩ := h.textual.head indent 0
    rw [Json.text, hc]
    rcases ho with rfl | rfl | rfl <;> rfl
  have hends : Ends (Json.text indent v) 0 true [] (tokensOf v ++ [.streamEnd]) := by
    have hscan : Ends (textAt indent 0 v ++ []) 0 true []
        (.streamEnd :: ((tokensOf v).reverse ++ [])).reverse := scans_textAt indent h 0 0 Ends.nil
    simpa [Json.text] using hscan
  unfold tokenize
  rw [hprintable, hmark]
  exact hends _ (stands_start _) _ (Nat.lt_succ_self _)

end

end ApiScribe.Yaml
