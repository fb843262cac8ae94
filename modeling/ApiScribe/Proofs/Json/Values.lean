import ApiScribe.Proofs.Json.Strings

/-!
# Reading a written value

The reader returns what is left of its input together with a proof that it is shorter.  `Reads`
forgets that proof: it says what is read and what is left, so that readings can be put together
like the rules of a grammar (`Reads.string`, `Reads.array`, `ReadsItems.more`, …).

Main statement: `readWithin_text` — a value that is built from texts alone is read back from its
text, whatever the indent, if it is nested no deeper than is read.  Such values are all that stored
models are made of.
-/

namespace ApiScribe.Json

/-! ### Readings -/

/-- A value is read at the start of `s` with so many levels of brackets, and `rest` is left. -/
def Reads (levels : Nat) (s : List Char) (v : Json) (rest : List Char) : Prop :=
  ∃ r : Shorter s, value levels s = .ok (v, r) ∧ r.val = rest

/-- The items of an array are read at the start of `s`, with the bracket that closes it. -/
def ReadsItems (levels : Nat) (s : List Char) (vs : List Json) (rest : List Char) : Prop :=
  ∃ r : Shorter s, items levels s = .ok (vs, r) ∧ r.val = rest

/-- The members of an object are read at the start of `s`, with the brace that closes it. -/
def ReadsMembers (levels : Nat) (s : List Char) (ms : List (Name × Json)) (rest : List Char) :
    Prop :=
  ∃ r : Shorter s, members levels s = .ok (ms, r) ∧ r.val = rest

section
variable {levels : Nat} {s body colon after mid rest : List Char} {points : List Nat} {v : Json}
  {vs : List Json} {ms : List (Name × Json)}

theorem Reads.string (h : stringBody body = .ok (points, rest)) :
    Reads levels ('"' :: body) (ofCodePoints points) rest := by
  unfold Reads
  rw [value]
  split
  · next he => rw [h] at he; cases he
  · next he => rw [h] at he; cases he; exact ⟨_, rfl, rfl⟩

theorem Reads.emptyArray (h : skipSpace body = ']' :: rest) :
    Reads (levels + 1) ('[' :: body) (.array []) rest := by
  unfold Reads
  rw [value]
  split
  · next hr =>
    rw [h] at hr
    cases hr
    exact ⟨_, rfl, rfl⟩
  · next hn => exact absurd h (hn _)

/-- Where no closing bracket comes after the opening one, there are items. -/
theorem Reads.array (hb : ∀ r, skipSpace body ≠ ']' :: r)
    (h : ReadsItems levels (skipSpace body) vs rest) :
    Reads (levels + 1) ('[' :: body) (.array vs) rest := by
  obtain ⟨r, h, rfl⟩ := h
  unfold Reads
  rw [value]
  split
  · next hr => exact absurd hr (hb _)
  · rw [h]
    exact ⟨_, rfl, rfl⟩

theorem Reads.emptyObject (h : skipSpace body = '}' :: rest) :
    Reads (levels + 1) ('{' :: body) (.object []) rest := by
  unfold Reads
  rw [value]
  split
  · next hr =>
    rw [h] at hr
    cases hr
    exact ⟨_, rfl, rfl⟩
  · next hn => exact absurd h (hn _)

/-- Where no closing brace comes after the opening one, there are members. -/
theorem Reads.object (hb : ∀ r, skipSpace body ≠ '}' :: r)
    (h : ReadsMembers levels (skipSpace body) ms rest) :
    Reads (levels + 1) ('{' :: body) (ofMembers ms) rest := by
  obtain ⟨r, h, rfl⟩ := h
  unfold Reads
  rw [value]
  split
  · next hr => exact absurd hr (hb _)
  · rw [h]
    exact ⟨_, rfl, rfl⟩

theorem ReadsItems.last (hv : Reads levels s v mid) (h : skipSpace mid = ']' :: rest) :
    ReadsItems levels s [v] rest := by
  obtain ⟨r, hv, rfl⟩ := hv
  unfold ReadsItems
  rw [items, hv]
  dsimp only
  split
  · next hr =>
    rw [h] at hr
    cases hr
    exact ⟨_, rfl, rfl⟩
  · next hr =>
    rw [h] at hr
    cases hr
  · next hbracket _ => exact absurd h (hbracket _)

theorem ReadsItems.more (hv : Reads levels s v mid) (h : skipSpace mid = ',' :: after)
    (hvs : ReadsItems levels (skipSpace after) vs rest) :
    ReadsItems levels s (v :: vs) rest := by
  obtain ⟨r, hv, rfl⟩ := hv
  obtain ⟨r', hvs, rfl⟩ := hvs
  unfold ReadsItems
  rw [items, hv]
  dsimp only
  split
  · next hr =>
    rw [h] at hr
    cases hr
  · next hr =>
    rw [h] at hr
    cases hr
    rw [hvs]
    exact ⟨_, rfl, rfl⟩
  · next _ hcomma => exact absurd h (hcomma _)

/-- After its first member an object ends, or there is a comma before more members. -/
theorem ReadsMembers.of_first (hk : stringBody body = .ok (points, colon))
    (hc : skipSpace colon = ':' :: after) (hv : Reads levels (skipSpace after) v mid)
    (h : (skipSpace mid = '}' :: rest ∧ ms = [(Name.ofCodePoints points, v)]) ∨
      ∃ next more, skipSpace mid = ',' :: next ∧ ReadsMembers levels (skipSpace next) more rest ∧
        ms = (Name.ofCodePoints points, v) :: more) :
    ReadsMembers levels ('"' :: body) ms rest := by
  obtain ⟨r, hv, rfl⟩ := hv
  unfold ReadsMembers
  rw [members]
  split
  · next he =>
    rw [hk] at he
    cases he
  · next he =>
    rw [hk] at he
    cases he
    dsimp only
    split
    · next hr =>
      rw [hc] at hr
      cases hr
      rw [hv]
      dsimp only
      -- the name and the value are read; only now do the two ways part
      rcases h with ⟨hclose, rfl⟩ | ⟨next, more, hcomma, ⟨r', hmore, rfl⟩, rfl⟩
      · split
        · next hr =>
          rw [hclose] at hr
          cases hr
          exact ⟨_, rfl, rfl⟩
        · next hr =>
          rw [hclose] at hr
          cases hr
        · next hbrace _ => exact absurd hclose (hbrace _)
      · split
        · next hr =>
          rw [hcomma] at hr
          cases hr
        · next hr =>
          rw [hcomma] at hr
          cases hr
          rw [hmore]
          exact ⟨_, rfl, rfl⟩
        · next _ hnone => exact absurd hcomma (hnone _)
    · next hn => exact absurd hc (hn _)

theorem ReadsMembers.last (hk : stringBody body = .ok (points, colon))
    (hc : skipSpace colon = ':' :: after) (hv : Reads levels (skipSpace after) v mid)
    (h : skipSpace mid = '}' :: rest) :
    ReadsMembers levels ('"' :: body) [(Name.ofCodePoints points, v)] rest :=
  .of_first hk hc hv (.inl ⟨h, rfl⟩)

theorem ReadsMembers.more {next : List Char} (hk : stringBody body = .ok (points, colon))
    (hc : skipSpace colon = ':' :: after) (hv : Reads levels (skipSpace after) v mid)
    (h : skipSpace mid = ',' :: next) (hms : ReadsMembers levels (skipSpace next) ms rest) :
    ReadsMembers levels ('"' :: body) ((Name.ofCodePoints points, v) :: ms) rest :=
  .of_first hk hc hv (.inr ⟨next, ms, h, hms, rfl⟩)

/-- A text that holds one value and nothing after it but space. -/
theorem readWithin_of_reads (hb : ∀ r, s ≠ '\uFEFF' :: r) (h : Reads levels (skipSpace s) v rest)
    (hr : skipSpace rest = []) : readWithin levels s = .ok v := by
  obtain ⟨r, h, rfl⟩ := h
  unfold readWithin
  split
  · next cs => exact absurd rfl (hb cs)
  · rw [h]
    dsimp only
    rw [hr]

end

/-! ### Members with distinct names -/

theorem setMember_of_notMem {name : Name} {v : Json} {ms : List (Name × Json)}
    (h : name ∉ ms.map Prod.fst) : setMember name v ms = ms ++ [(name, v)] := by
  induction ms with
  | nil => rfl
  | cons m ms ih =>
    obtain ⟨n, w⟩ := m
    simp only [List.map_cons, List.mem_cons, not_or] at h
    have hn : n ≠ name := fun hn => h.1 hn.symm
    rw [setMember, if_neg hn, ih h.2, List.cons_append]

theorem foldl_setMember {acc ms : List (Name × Json)} (h : ((acc ++ ms).map Prod.fst).Nodup) :
    ms.foldl (fun acc (name, v) => setMember name v acc) acc = acc ++ ms := by
  induction ms generalizing acc with
  | nil => simp
  | cons m ms ih =>
    obtain ⟨n, v⟩ := m
    have hn : n ∉ acc.map Prod.fst := by
      rw [List.map_append, List.nodup_append] at h
      intro hm
      exact h.2.2 n hm n (by simp) rfl
    rw [List.foldl_cons]
    show ms.foldl _ (setMember n v acc) = _
    rw [setMember_of_notMem hn, ih (by simpa using h), List.append_assoc, List.singleton_append]

/-- When no name comes twice, no member replaces another. -/
theorem ofMembers_of_nodup {ms : List (Name × Json)} (h : (ms.map Prod.fst).Nodup) :
    ofMembers ms = .object ms := by
  rw [ofMembers, foldl_setMember (by simpa using h), List.nil_append]

/-! ### Values made of texts -/

/-- The value is built from texts alone, with at most so many levels of brackets: it is a text, an
array of such values, or an object of such values under distinct names. -/
inductive Textual : Nat → Json → Prop
  | string {levels : Nat} (s : String) : Textual levels (.string s)
  | array {levels : Nat} {vs : List Json} (h : ∀ v ∈ vs, Textual levels v) :
    Textual (levels + 1) (.array vs)
  | object {levels : Nat} {ms : List (String × Json)} (hn : (ms.map Prod.fst).Nodup)
      (h : ∀ m ∈ ms, Textual levels m.2) :
    Textual (levels + 1) (.object (ms.map fun m => (.text m.1, m.2)))

theorem Textual.mono {n m : Nat} {v : Json} (h : Textual n v) (hm : n ≤ m) : Textual m v := by
  induction h generalizing m with
  | string s => exact .string s
  | array _ ih =>
    obtain ⟨m, rfl⟩ := Nat.exists_eq_add_of_le' (Nat.zero_lt_of_lt hm)
    exact .array fun v hv => ih v hv (Nat.le_of_succ_le_succ hm)
  | object hn _ ih =>
    obtain ⟨m, rfl⟩ := Nat.exists_eq_add_of_le' (Nat.zero_lt_of_lt hm)
    exact .object hn fun n hn => ih n hn (Nat.le_of_succ_le_succ hm)

/-- No string and no name in the value holds a surrogate without its partner. -/
inductive Paired : Json → Prop
  | null : Paired .null
  | bool (b : Bool) : Paired (.bool b)
  | int (n : Int) : Paired (.int n)
  | float (x : Float) : Paired (.float x)
  | string (s : String) : Paired (.string s)
  | array {vs : List Json} (h : ∀ v ∈ vs, Paired v) : Paired (.array vs)
  | object {ms : List (Name × Json)} (hn : ∀ m ∈ ms, ∃ s, m.1 = .text s)
      (h : ∀ m ∈ ms, Paired m.2) : Paired (.object ms)

theorem Textual.paired {levels : Nat} {v : Json} (h : Textual levels v) : Paired v := by
  induction h with
  | string s => exact .string s
  | array _ ih => exact .array ih
  | @object _ ms _ _ ih =>
    refine .object ?_ (List.forall_mem_map.2 ih)
    exact List.forall_mem_map.2 fun m _ => ⟨m.1, rfl⟩

section
variable {levels : Nat} {v : Json} (indent : Option Nat)

/-- The text of such a value starts with one of three characters, none of them space and none of
them a closing bracket. -/
theorem Textual.head (h : Textual levels v) (depth : Nat) :
    ∃ c cs, textAt indent depth v = c :: cs ∧ (c = '"' ∨ c = '[' ∨ c = '{') := by
  cases h with
  | string s => exact ⟨'"', _, by rw [textAt]; rfl, .inl rfl⟩
  | @array _ vs h =>
    cases vs with
    | nil => exact ⟨'[', _, by rw [textAt], .inr (.inl rfl)⟩
    | cons v vs => exact ⟨'[', _, by rw [textAt], .inr (.inl rfl)⟩
  | @object _ ms hn h =>
    cases ms with
    | nil => exact ⟨'{', _, by rw [List.map_nil, textAt], .inr (.inr rfl)⟩
    | cons m ms => exact ⟨'{', _, by rw [List.map_cons, textAt], .inr (.inr rfl)⟩

theorem Textual.skipSpace (h : Textual levels v) (depth : Nat) (rest : List Char) :
    skipSpace (textAt indent depth v ++ rest) = textAt indent depth v ++ rest := by
  obtain ⟨c, cs, hc, ho⟩ := h.head indent depth
  rw [hc, List.cons_append]
  rcases ho with rfl | rfl | rfl <;> rfl

theorem skipSpace_lineBreak (depth : Nat) (s : List Char) :
    skipSpace (lineBreak indent depth ++ s) = skipSpace s := by
  have hr : ∀ n, skipSpace (List.replicate n ' ' ++ s) = skipSpace s := by
    intro n
    induction n with
    | zero => rfl
    | succ n ih => rw [List.replicate_succ, List.cons_append]; exact ih
  cases indent with
  | none => rfl
  | some width => exact hr (width * depth)

/-- A separator is a comma and space. -/
theorem separator_eq (depth : Nat) : ∃ gap, separator indent depth = ',' :: gap ∧
    ∀ s, skipSpace (gap ++ s) = skipSpace s := by
  cases indent with
  | none => exact ⟨[' '], rfl, fun _ => rfl⟩
  | some width => exact ⟨lineBreak (some width) depth, rfl, skipSpace_lineBreak _ depth⟩

/-! ### Reading back what was written -/

/-- The items of an array are read back if each of them is. -/
theorem readsItems_text {vs : List Json} {depth outer : Nat} {rest : List Char}
    (ht : ∀ u ∈ v :: vs, Textual levels u)
    (h : ∀ u ∈ v :: vs, ∀ rest, Reads levels (textAt indent depth u ++ rest) u rest) :
    ReadsItems levels (textAt indent depth v ++
      (moreItems indent depth vs ++ (lineBreak indent outer ++ ']' :: rest))) (v :: vs) rest := by
  induction vs generalizing v with
  | nil =>
    refine ReadsItems.last (h v (by simp) _) ?_
    rw [moreItems, List.nil_append, skipSpace_lineBreak]
    rfl
  | cons u us ih =>
    obtain ⟨gap, hsep, hgap⟩ := separator_eq indent depth
    have ht' : ∀ w ∈ u :: us, Textual levels w := fun w hw => ht w (List.mem_cons_of_mem v hw)
    have h' : ∀ w ∈ u :: us, ∀ rest, Reads levels (textAt indent depth w ++ rest) w rest :=
      fun w hw => h w (List.mem_cons_of_mem v hw)
    have hcomma : skipSpace (moreItems indent depth (u :: us) ++
        (lineBreak indent outer ++ ']' :: rest)) = ',' :: (gap ++ (textAt indent depth u ++
          (moreItems indent depth us ++ (lineBreak indent outer ++ ']' :: rest)))) := by
      rw [moreItems, hsep]
      simp only [List.cons_append, List.append_assoc]
      rfl
    -- what follows the comma starts with the next item once space is skipped
    refine ReadsItems.more (h v (by simp) _) hcomma ?_
    rw [hgap, (ht' u (by simp)).skipSpace]
    exact ih ht' h'

/-- The last member of an object, under a written name. -/
theorem ReadsMembers.last_named {name : String} {after mid rest : List Char}
    (hv : Reads levels (Json.skipSpace after) v mid) (h : Json.skipSpace mid = '}' :: rest) :
    ReadsMembers levels (stringText name.toList ++ ':' :: after) [(.text name, v)] rest := by
  have hm := ReadsMembers.last (stringBody_text name.toList (':' :: after)) rfl hv h
  rw [Name.ofCodePoints_toNat] at hm
  simpa [stringText] using hm

/-- A member of an object, under a written name, before others. -/
theorem ReadsMembers.more_named {name : String} {after mid next rest : List Char}
    {ms : List (Name × Json)} (hv : Reads levels (Json.skipSpace after) v mid)
    (h : Json.skipSpace mid = ',' :: next)
    (hms : ReadsMembers levels (Json.skipSpace next) ms rest) :
    ReadsMembers levels (stringText name.toList ++ ':' :: after) ((.text name, v) :: ms) rest := by
  have hm := ReadsMembers.more (stringBody_text name.toList (':' :: after)) rfl hv h hms
  rw [Name.ofCodePoints_toNat] at hm
  simpa [stringText] using hm

/-- A name starts with a quote, so no space is skipped before it. -/
theorem skipSpace_stringText (cs rest : List Char) :
    skipSpace (stringText cs ++ rest) = stringText cs ++ rest := rfl

/-- A value may stand after a space. -/
theorem reads_after_space {depth : Nat} (ht : Textual levels v)
    (h : ∀ rest, Reads levels (textAt indent depth v ++ rest) v rest) (tail : List Char) :
    Reads levels (skipSpace (' ' :: (textAt indent depth v ++ tail))) v tail := by
  show Reads levels (skipSpace (textAt indent depth v ++ tail)) v tail
  rw [ht.skipSpace]
  exact h tail

/-- The members of an object are read back if each value is. -/
theorem readsMembers_text {m : String × Json} {ms : List (String × Json)} {depth outer : Nat}
    {rest : List Char} (ht : ∀ n ∈ m :: ms, Textual levels n.2)
    (h : ∀ n ∈ m :: ms, ∀ rest, Reads levels (textAt indent depth n.2 ++ rest) n.2 rest) :
    ReadsMembers levels (stringText m.1.toList ++ ':' :: ' ' :: (textAt indent depth m.2 ++
      (moreMembers indent depth (ms.map fun m => (.text m.1, m.2)) ++
        (lineBreak indent outer ++ '}' :: rest))))
      ((m :: ms).map fun m => (.text m.1, m.2)) rest := by
  have hv : ∀ tail, Reads levels (skipSpace (' ' :: (textAt indent depth m.2 ++ tail))) m.2 tail :=
    reads_after_space indent (ht m (by simp)) (h m (by simp))
  induction ms generalizing m with
  | nil =>
    refine ReadsMembers.last_named (hv _) ?_
    rw [List.map_nil, moreMembers, List.nil_append, skipSpace_lineBreak]
    rfl
  | cons n ns ih =>
    obtain ⟨gap, hsep, hgap⟩ := separator_eq indent depth
    have ht' : ∀ k ∈ n :: ns, Textual levels k.2 := fun k hk => ht k (List.mem_cons_of_mem m hk)
    have h' : ∀ k ∈ n :: ns, ∀ rest, Reads levels (textAt indent depth k.2 ++ rest) k.2 rest :=
      fun k hk => h k (List.mem_cons_of_mem m hk)
    have hcomma : skipSpace (moreMembers indent depth
        ((n :: ns).map fun m => (.text m.1, m.2)) ++ (lineBreak indent outer ++ '}' :: rest)) =
        ',' :: (gap ++ (stringText n.1.toList ++ ':' :: ' ' :: (textAt indent depth n.2 ++
          (moreMembers indent depth (ns.map fun m => (.text m.1, m.2)) ++
            (lineBreak indent outer ++ '}' :: rest))))) := by
      rw [List.map_cons, moreMembers, hsep]
      simp only [Name.written, List.cons_append, List.append_assoc]
      rfl
    refine ReadsMembers.more_named (hv _) hcomma ?_
    rw [hgap, skipSpace_stringText]
    exact ih ht' h' (reads_after_space indent (ht' n (by simp)) (h' n (by simp)))

/-- A value made of texts is read back from its text at any depth, whatever follows. -/
theorem reads_textAt (h : Textual levels v) (depth : Nat) (rest : List Char) :
    Reads levels (textAt indent depth v ++ rest) v rest := by
  -- on how the value is built; items and members are one level deeper than what holds them
  induction h generalizing depth rest with
  | @string levels s =>
    have hs : Reads levels _ _ rest := .string (stringBody_text s.toList rest)
    rw [ofCodePoints_toNat] at hs
    simpa [textAt, stringText] using hs
  | @array levels vs ht ih =>
    cases vs with
    | nil => rw [textAt]; exact Reads.emptyArray rfl
    | cons v vs =>
      have hbody : skipSpace (lineBreak indent (depth + 1) ++ (textAt indent (depth + 1) v ++
          (moreItems indent (depth + 1) vs ++ (lineBreak indent depth ++ ']' :: rest)))) =
          textAt indent (depth + 1) v ++ (moreItems indent (depth + 1) vs ++
            (lineBreak indent depth ++ ']' :: rest)) := by
        rw [skipSpace_lineBreak, (ht v (by simp)).skipSpace]
      -- an item follows, whose text does not begin with the bracket of an empty array
      have hopen : ∀ r, skipSpace (lineBreak indent (depth + 1) ++ (textAt indent (depth + 1) v ++
          (moreItems indent (depth + 1) vs ++ (lineBreak indent depth ++ ']' :: rest)))) ≠
          ']' :: r := by
        intro r hr
        obtain ⟨c, cs, hc, ho⟩ := (ht v (by simp)).head indent (depth + 1)
        rw [hbody, hc] at hr
        rcases ho with rfl | rfl | rfl <;> cases hr
      have harray := Reads.array hopen (by
        rw [hbody]
        exact readsItems_text indent ht fun u hu => ih u hu (depth + 1))
      simpa [textAt] using harray
  | @object levels ms hn ht ih =>
    cases ms with
    | nil => rw [List.map_nil, textAt]; exact Reads.emptyObject rfl
    | cons m ms =>
      -- no member replaces another, so the object has them as they were written
      have hdistinct : ((((m :: ms).map fun m => (Name.text m.1, m.2))).map Prod.fst).Nodup := by
        have hmap : ((m :: ms).map fun m => (Name.text m.1, m.2)).map Prod.fst =
            ((m :: ms).map Prod.fst).map Name.text := by
          rw [List.map_map, List.map_map]
          rfl
        rw [hmap]
        exact List.Pairwise.map Name.text (fun _ _ hne he => hne (Name.text.inj he)) hn
      have hbody := skipSpace_lineBreak indent (depth + 1) (stringText m.1.toList ++
        ':' :: ' ' :: (textAt indent (depth + 1) m.2 ++ (moreMembers indent (depth + 1)
          (ms.map fun m => (.text m.1, m.2)) ++ (lineBreak indent depth ++ '}' :: rest))))
      rw [skipSpace_stringText] at hbody
      have hobject := Reads.object (by
        rw [hbody]
        intro r hr
        cases hr) (by
        rw [hbody]
        exact readsMembers_text indent ht fun n hn => ih n hn (depth + 1))
      rw [ofMembers_of_nodup hdistinct] at hobject
      simpa [textAt, Name.written] using hobject

/-- A value made of texts is read back from its text, also if space follows it. -/
theorem readWithin_text_append (h : Textual levels v) {rest : List Char}
    (hrest : skipSpace rest = []) : readWithin levels (text indent v ++ rest) = .ok v := by
  have hr := reads_textAt indent h 0 rest
  refine readWithin_of_reads ?_ (by rw [text, h.skipSpace indent 0]; exact hr) hrest
  intro r he
  obtain ⟨c, cs, hc, ho⟩ := h.head indent 0
  rw [text, hc, List.cons_append] at he
  rcases ho with rfl | rfl | rfl <;> cases he

theorem readWithin_text (h : Textual levels v) : readWithin levels (text indent v) = .ok v := by
  have hr : readWithin levels (text indent v ++ []) = .ok v := readWithin_text_append indent h rfl
  rwa [List.append_nil] at hr

end

end ApiScribe.Json
