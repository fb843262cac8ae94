import ApiScribe.Proofs.Json.Characters
import ApiScribe.Proofs.Yaml.Quoted
import ApiScribe.Yaml.Scanner

/-!
# Scanning inside brackets

Inside brackets indentation does not count, and a key is remembered only until the colon after it.
So it is enough to know of a scanner where it stands, at which level of brackets, whether a key may
start there and which tokens it has given: `Stands`.  `Ends` says that from every such place the
scan comes to its end with given tokens, and each of its rules takes one token off the text.
-/

namespace ApiScribe.Yaml.Scanner

open Json (stringText unitsOf)

/-! ### Moving -/

/-- Moving changes the place and what is left of the text, and nothing else. -/
theorem forward_eq (n : Nat) (s : Scanner) : ∃ index line column, forward n s =
    { s with rest := s.rest.drop n, index := index, line := line, column := column } := by
  induction n generalizing s with
  | zero => exact ⟨s.index, s.line, s.column, rfl⟩
  | succ n ih =>
    unfold forward
    split
    · next h => exact ⟨s.index, s.line, s.column, by rw [h, List.drop_nil, ← h]⟩
    · next c rest h =>
      rw [h, List.drop_succ_cons]
      dsimp only
      split
      · exact ih _
      · split
        · exact ih _
        · exact ih _

/-- Within a line, the index tells how far the scanner has moved. -/
theorem forward_eq_of_line {n : Nat} {s : Scanner} (hn : n ≤ s.rest.length)
    (h : ∀ c ∈ s.rest.take n, isBreak c = false) : ∃ column, forward n s =
      { s with rest := s.rest.drop n, index := s.index + n, column := column } := by
  induction n generalizing s with
  | zero => exact ⟨s.column, rfl⟩
  | succ n ih =>
    unfold forward
    split
    · next hs => rw [hs] at hn; cases hn
    · next c rest hs =>
      rw [hs] at hn h ⊢
      rw [List.take_succ_cons, List.forall_mem_cons] at h
      have hadd : s.index + 1 + n = s.index + (n + 1) := by omega
      simp only [h.1, Bool.false_and, Bool.false_eq_true, if_false, List.drop_succ_cons, ← hadd]
      split
      · exact ih (Nat.le_of_succ_le_succ hn) h.2
      · exact ih (Nat.le_of_succ_le_succ hn) h.2

/-! ### Where a scanner stands -/

/-- The scanner stands before a text, at a level of brackets, with tokens given so far, last one
first.  No block collection is open, and nothing that may be a key has to be one. -/
structure Stands (s : Scanner) (rest : List Char) (level : Nat) (allowKey : Bool)
    (tokens : List Token) : Prop where
  rest : s.rest = rest
  flowLevel : s.flowLevel = level
  allowKey : s.allowKey = allowKey
  tokens : s.tokens = tokens
  indent : s.indent = -1
  indents : s.indents = []
  optional : ∀ k ∈ s.keys, k.2.required = false

namespace Stands

variable {s : Scanner} {rest : List Char} {level : Nat} {b : Bool} {tokens : List Token}

theorem moveTo (gone : List Char) (hs : Stands s (gone ++ rest) level b tokens) :
    Stands (s.moveTo rest) rest level b tokens := by
  obtain ⟨index, line, column, h⟩ := forward_eq (s.rest.length - rest.length) s
  have hrest : s.rest.drop (s.rest.length - rest.length) = rest := by
    rw [hs.rest, List.length_append, Nat.add_sub_cancel, List.drop_left]
  rw [Scanner.moveTo, h, hrest]
  exact ⟨rfl, hs.flowLevel, hs.allowKey, hs.tokens, hs.indent, hs.indents, hs.optional⟩

theorem forward_one {c : Char} (hs : Stands s (c :: rest) level b tokens) :
    Stands (s.forward 1) rest level b tokens := by
  obtain ⟨index, line, column, h⟩ := forward_eq 1 s
  have hrest : s.rest.drop 1 = rest := by rw [hs.rest, List.drop_succ_cons, List.drop_zero]
  rw [h, hrest]
  exact ⟨rfl, hs.flowLevel, hs.allowKey, hs.tokens, hs.indent, hs.indents, hs.optional⟩

theorem emit (hs : Stands s rest level b tokens) (t : Token) :
    Stands (s.emit t) rest level b (t :: tokens) :=
  ⟨hs.rest, hs.flowLevel, hs.allowKey, congrArg (t :: ·) hs.tokens, hs.indent, hs.indents,
    hs.optional⟩

/-- The same place with other keys, none of which has to be one. -/
theorem withKeys {keys : List (Nat × PossibleKey)} (hs : Stands s rest level b tokens)
    (h : ∀ k ∈ keys, k.2.required = false) :
    Stands { s with keys := keys } rest level b tokens :=
  ⟨hs.rest, hs.flowLevel, hs.allowKey, hs.tokens, hs.indent, hs.indents, h⟩

theorem withAllowKey (hs : Stands s rest level b tokens) (allowed : Bool) :
    Stands { s with allowKey := allowed } rest level allowed tokens :=
  ⟨hs.rest, hs.flowLevel, rfl, hs.tokens, hs.indent, hs.indents, hs.optional⟩

end Stands

/-! ### Keys -/

section
variable {s : Scanner} {rest : List Char} {level : Nat} {b : Bool} {tokens : List Token}

/-- The scanner has not left the possible key behind. -/
def isFresh (s : Scanner) (k : Nat × PossibleKey) : Bool :=
  !(k.2.line != s.line || s.index - k.2.index > 1024)

/-- The scanner without the possible keys that it has left behind. -/
def fresh (s : Scanner) : Scanner := { s with keys := s.keys.filter s.isFresh }

theorem Stands.fresh (hs : Stands s rest level b tokens) :
    Stands s.fresh rest level b tokens :=
  hs.withKeys fun _ hk => hs.optional _ (List.mem_filter.1 hk).1

theorem Stands.dropStaleKeys_eq (hs : Stands s rest level b tokens) :
    s.dropStaleKeys = .ok s.fresh := by
  have hnone : (s.keys.any fun k =>
      (k.2.line != s.line || s.index - k.2.index > 1024) && k.2.required) = false := by
    rw [List.any_eq_false]
    intro k hk
    simp [hs.optional k hk]
  unfold dropStaleKeys
  dsimp only
  rw [hnone]
  rfl

theorem Stands.dropKey_eq (hs : Stands s rest level b tokens) :
    ∃ keys, s.dropKey = .ok { s with keys := keys } ∧ ∀ k ∈ keys, k.2.required = false := by
  unfold dropKey
  split
  · next k hk =>
    have hrequired : k.required = false := by
      obtain ⟨before, after, hkeys, -⟩ := List.lookup_eq_some_iff.1 hk
      exact hs.optional (s.flowLevel, k) (by rw [hkeys]; exact List.mem_append_cons_self)
    rw [hrequired]
    exact ⟨_, rfl, fun k hk => hs.optional k (List.mem_filter.1 hk).1⟩
  · exact ⟨s.keys, rfl, hs.optional⟩

/-- The possible key that starts where a scanner stands. -/
def keyHere (s : Scanner) : PossibleKey := ⟨s.tokens.length, false, s.index, s.line, s.column⟩

/-- Where a key may start, it is remembered for this level of brackets. -/
theorem Stands.saveKey_eq (hs : Stands s rest level b tokens) :
    ∃ keys, s.saveKey = .ok { s with keys := keys } ∧ (∀ k ∈ keys, k.2.required = false) ∧
      (b = true → keys.lookup level = some s.keyHere) := by
  have hcolumn : (s.indent == (s.column : Int)) = false := by
    rw [hs.indent, beq_eq_false_iff_ne]
    omega
  unfold saveKey
  split
  · obtain ⟨keys, hkeys, hoptional⟩ := hs.dropKey_eq
    rw [hkeys, hcolumn, Bool.and_false]
    refine ⟨(s.flowLevel, s.keyHere) :: keys, rfl, ?_, fun _ => ?_⟩
    · exact List.forall_mem_cons.2 ⟨rfl, hoptional⟩
    · rw [hs.flowLevel, List.lookup_cons_self]
  · next h => exact ⟨s.keys, rfl, hs.optional, fun hb => absurd (hs.allowKey.trans hb) h⟩

/-! ### The next token -/

/-- A character that starts a token. -/
def StartsToken (c : Char) : Prop := isGap c = false ∧ c ≠ '#'

instance (c : Char) : Decidable (StartsToken c) := inferInstanceAs (Decidable (_ ∧ _))

theorem moveTo_rest (s : Scanner) : s.moveTo s.rest = s := by
  rw [moveTo, Nat.sub_self]
  rfl

theorem skipGap_eq_self {fuel : Nat} (hblank : s.rest.dropWhile (· == ' ') = s.rest)
    (hcomment : (s.rest.head? == some '#') = false) (hbreak : lineBreak? s.rest = none) :
    s.skipGap (fuel + 1) = s := by
  unfold skipGap
  rw [hblank, moveTo_rest]
  simp only [hcomment, Bool.false_eq_true, if_false, hbreak]

theorem StartsToken.ne_blank {c : Char} (hc : StartsToken c) : c ≠ ' ' := by
  rintro rfl
  exact absurd hc.1 (by decide)

theorem StartsToken.no_comment {c : Char} (hc : StartsToken c) (rest : List Char) :
    ((c :: rest).head? == some '#') = false := by
  rw [List.head?_cons, beq_eq_false_iff_ne]
  exact fun h => hc.2 (Option.some.inj h)

/-- No gap is skipped before a token. -/
theorem skipGap_of_startsToken {c : Char} {fuel : Nat} (hc : StartsToken c)
    (hs : s.rest = c :: rest) : s.skipGap (fuel + 1) = s := by
  have hdrop : s.rest.dropWhile (· == ' ') = s.rest := by
    rw [hs, List.dropWhile_cons_of_neg (by rw [beq_iff_eq]; exact hc.ne_blank)]
  exact skipGap_eq_self hdrop (by rw [hs, hc.no_comment]) (by rw [hs, lineBreak?_cons hc.1])

theorem unwind_eq {column : Int} (hs : Stands s rest level b tokens) (hcolumn : -1 ≤ column) :
    s.unwind column = s := by
  have hn : ¬ s.indent > column := by
    rw [hs.indent]
    omega
  unfold unwind
  rw [hs.indents, unwind.go, if_neg hn, ite_self]

/-- One step of a scan, before a token. -/
theorem Stands.run_eq {c : Char} (hs : Stands s (c :: rest) level b tokens) (hc : StartsToken c)
    (fuel : Nat) : run (fuel + 1) s = s.fresh.token c rest >>= run fuel := by
  have hkeys : s.fresh.rest = c :: rest := hs.fresh.rest
  unfold run
  rw [skipGap_of_startsToken hc hs.rest, hs.dropStaleKeys_eq, Outcome.ok_bind,
    unwind_eq hs.fresh (by omega)]
  dsimp only
  split
  · next h => rw [hkeys] at h; cases h
  · next h =>
    rw [hkeys] at h
    cases h
    rfl

/-- The scan of what is left ends with the given tokens, wherever it stands. -/
def Ends (rest : List Char) (level : Nat) (allowKey : Bool) (tokens ts : List Token) : Prop :=
  ∀ s, Stands s rest level allowKey tokens → ∀ fuel, rest.length < fuel → run fuel s = .ok ts

/-- The rule for a token: a step that takes it leads to where the scan goes on. -/
theorem Ends.of_token {c : Char} {more : List Char} {after : Nat} {allowed : Bool}
    {emitted ts : List Token} (hc : StartsToken c) (hmore : more.length ≤ rest.length)
    (h : Ends more after allowed emitted ts)
    (htoken : ∀ s, Stands s (c :: rest) level b tokens →
      ∃ s', s.token c rest = .ok s' ∧ Stands s' more after allowed emitted) :
    Ends (c :: rest) level b tokens ts := by
  intro s hs fuel hfuel
  obtain ⟨fuel, rfl⟩ : ∃ n, fuel = n + 1 := ⟨fuel - 1, by omega⟩
  obtain ⟨s', htoken, hs'⟩ := htoken s.fresh hs.fresh
  rw [List.length_cons] at hfuel
  rw [hs.run_eq hc, htoken, Outcome.ok_bind]
  exact h s' hs' fuel (by omega)

/-! ### Gaps -/

/-- The text is made of blanks and line ends, as those that stand between tokens of JSON. -/
def IsSpace (gap : List Char) : Prop := ∀ c ∈ gap, c = ' ' ∨ c = '\n'

theorem dropWhile_blanks {blanks : List Char} {c : Char} (h : ∀ x ∈ blanks, x = ' ') (hc : c ≠ ' ')
    (rest : List Char) : (blanks ++ c :: rest).dropWhile (· == ' ') = c :: rest := by
  rw [List.dropWhile_append_of_pos fun x hx => beq_iff_eq.2 (h x hx),
    List.dropWhile_cons_of_neg (by rwa [beq_iff_eq])]

/-- A gap is a run of blanks, alone or before another character. -/
theorem exists_blanks (gap : List Char) : ∃ blanks after, gap = blanks ++ after ∧
    (∀ x ∈ blanks, x = ' ') ∧ ∀ x more, after = x :: more → x ≠ ' ' := by
  have hblanks : ∀ x ∈ gap.takeWhile (· == ' '), x = ' ' :=
    fun x hx => beq_iff_eq.1 (List.all_eq_true.1 List.all_takeWhile x hx)
  refine ⟨gap.takeWhile (· == ' '), gap.dropWhile (· == ' '), List.takeWhile_append_dropWhile.symm,
    hblanks, ?_⟩
  intro x more hx hblank
  have hhead := List.head?_dropWhile_not (· == ' ') gap
  rw [hx, hblank] at hhead
  exact absurd hhead (by simp)

/-- Blanks before a token are skipped. -/
theorem Stands.skipGap_blanks {c : Char} {blanks : List Char} (h : ∀ x ∈ blanks, x = ' ')
    (hc : StartsToken c) (hs : Stands s (blanks ++ c :: rest) level b tokens) (fuel : Nat) :
    Stands (s.skipGap (fuel + 1)) (c :: rest) level b tokens := by
  have hmoved : Stands (s.moveTo (c :: rest)) (c :: rest) level b tokens := hs.moveTo blanks
  have hcomment : ((s.moveTo (c :: rest)).rest.head? == some '#') = false := by
    rw [hmoved.rest, hc.no_comment]
  have hbreak : lineBreak? (s.moveTo (c :: rest)).rest = none := by
    rw [hmoved.rest, lineBreak?_cons hc.1]
  unfold Scanner.skipGap
  rw [hs.rest, dropWhile_blanks h hc.ne_blank]
  simp only [hcomment, Bool.false_eq_true, if_false, hbreak]
  exact hmoved

/-- Inside brackets, the end of a line and the blanks before it are skipped in one step. -/
theorem Stands.skipGap_line {blanks : List Char} (h : ∀ x ∈ blanks, x = ' ')
    (hs : Stands s (blanks ++ '\n' :: rest) (level + 1) b tokens) (fuel : Nat) :
    ∃ s', s.skipGap (fuel + 1) = s'.skipGap fuel ∧ Stands s' rest (level + 1) b tokens := by
  have hmoved : Stands (s.moveTo ('\n' :: rest)) ('\n' :: rest) (level + 1) b tokens :=
    hs.moveTo blanks
  have hcomment : ((s.moveTo ('\n' :: rest)).rest.head? == some '#') = false := by
    rw [hmoved.rest]
    rfl
  have hbreak : lineBreak? (s.moveTo ('\n' :: rest)).rest = some ('\n', rest) := by
    rw [hmoved.rest]
    rfl
  have hmore : Stands ((s.moveTo ('\n' :: rest)).moveTo rest) rest (level + 1) b tokens :=
    Stands.moveTo ['\n'] hmoved
  have hflow : ((s.moveTo ('\n' :: rest)).moveTo rest).inFlow = true := by
    rw [inFlow, hmore.flowLevel]
    rfl
  refine ⟨(s.moveTo ('\n' :: rest)).moveTo rest, ?_, hmore⟩
  rw [Scanner.skipGap, hs.rest, dropWhile_blanks h (by decide)]
  simp only [hcomment, Bool.false_eq_true, if_false, hbreak, hflow, if_true]

/-- Inside brackets a gap is skipped and changes nothing but the place. -/
theorem Stands.skipGap {c : Char} {gap : List Char} {fuel : Nat} (hgap : IsSpace gap)
    (hc : StartsToken c) (hfuel : gap.length < fuel)
    (hs : Stands s (gap ++ c :: rest) (level + 1) b tokens) :
    Stands (s.skipGap fuel) (c :: rest) (level + 1) b tokens := by
  -- one step for each line of the gap
  induction fuel generalizing gap s with
  | zero => exact absurd hfuel (Nat.not_lt_zero _)
  | succ fuel ih =>
    obtain ⟨blanks, after, rfl, hblanks, hafter⟩ := exists_blanks gap
    cases after with
    | nil =>
      rw [List.append_nil] at hs
      exact hs.skipGap_blanks hblanks hc fuel
    | cons x more =>
      obtain ⟨hx, hmore⟩ := List.forall_mem_cons.1 (List.forall_mem_append.1 hgap).2
      obtain rfl : x = '\n' := hx.resolve_left (hafter x more rfl)
      rw [List.append_assoc] at hs
      rw [List.length_append, List.length_cons] at hfuel
      obtain ⟨s', hskip, hs'⟩ := hs.skipGap_line hblanks fuel
      rw [hskip]
      exact ih hmore (by omega) hs'

/-- The rule for a gap before a token. -/
theorem Ends.gap {c : Char} {gap : List Char} {ts : List Token} (hgap : IsSpace gap)
    (hc : StartsToken c) (h : Ends (c :: rest) (level + 1) b tokens ts) :
    Ends (gap ++ c :: rest) (level + 1) b tokens ts := by
  intro s hs fuel hfuel
  obtain ⟨fuel, rfl⟩ : ∃ n, fuel = n + 1 := ⟨fuel - 1, by omega⟩
  rw [List.length_append] at hfuel
  have hskipped : Stands (s.skipGap s.rest.length.succ) (c :: rest) (level + 1) b tokens :=
    hs.skipGap hgap hc (by rw [hs.rest, List.length_append]; omega)
  rw [← h _ hskipped (fuel + 1) (by omega)]
  unfold run
  rw [skipGap_of_startsToken hc hskipped.rest]

/-! ### Marks -/

theorem inFlow_eq (hs : Stands s rest (level + 1) b tokens) : s.inFlow = true := by
  rw [inFlow, hs.flowLevel]
  rfl

theorem Stands.openFlow {c : Char} (hs : Stands s (c :: rest) level b tokens) (t : Token) :
    ∃ s', s.openFlow t = .ok s' ∧ Stands s' rest (level + 1) true (t :: tokens) := by
  obtain ⟨keys, hkeys, hoptional, -⟩ := hs.saveKey_eq
  have hopen : Stands { s with keys := keys, flowLevel := s.flowLevel + 1, allowKey := true }
      (c :: rest) (level + 1) true tokens :=
    ⟨hs.rest, congrArg (· + 1) hs.flowLevel, rfl, hs.tokens, hs.indent, hs.indents, hoptional⟩
  rw [Scanner.openFlow, hkeys]
  exact ⟨_, rfl, hopen.forward_one.emit t⟩

theorem Stands.closeFlow {c : Char} (hs : Stands s (c :: rest) (level + 1) b tokens) (t : Token) :
    ∃ s', s.closeFlow t = .ok s' ∧ Stands s' rest level false (t :: tokens) := by
  obtain ⟨keys, hkeys, hoptional⟩ := hs.dropKey_eq
  have hlevel : ¬ s.flowLevel = 0 := by
    rw [hs.flowLevel]
    exact Nat.succ_ne_zero level
  have hclose : Stands { s with keys := keys, flowLevel := s.flowLevel - 1, allowKey := false }
      (c :: rest) level false tokens :=
    ⟨hs.rest, congrArg (· - 1) hs.flowLevel, rfl, hs.tokens, hs.indent, hs.indents, hoptional⟩
  rw [Scanner.closeFlow, hkeys, Outcome.ok_bind, if_neg hlevel]
  exact ⟨_, rfl, hclose.forward_one.emit t⟩

/-- A colon turns the token before it into a key, if that is remembered as a possible one. -/
theorem Stands.valueMark {c : Char} {t : Token} {k : PossibleKey}
    (hs : Stands s (c :: rest) (level + 1) b (t :: tokens))
    (hk : s.keys.lookup (level + 1) = some k) (hnumber : k.number = tokens.length) :
    ∃ s', s.valueMark = .ok s' ∧
      Stands s' rest (level + 1) false (.value :: t :: .key :: tokens) := by
  have hlater : s.tokens.length - k.number = 1 := by
    rw [hs.tokens, hnumber, List.length_cons]
    omega
  have htokens : s.tokens.take 1 ++ .key :: s.tokens.drop 1 = t :: .key :: tokens := by
    rw [hs.tokens]
    rfl
  have hinsert : Stands
      ({ s with keys := s.keys.filter fun k => k.1 != s.flowLevel }.insertAt k.number .key)
      (c :: rest) (level + 1) b (t :: .key :: tokens) := by
    rw [insertAt, hlater, htokens]
    exact ⟨hs.rest, hs.flowLevel, hs.allowKey, rfl, hs.indent, hs.indents,
      fun k hk => hs.optional k (List.mem_filter.1 hk).1⟩
  have hlookup : s.keys.lookup s.flowLevel = some k := by rw [hs.flowLevel, hk]
  rw [Scanner.valueMark, hlookup]
  dsimp only
  rw [inFlow_eq hinsert]
  exact ⟨_, rfl, (hinsert.withAllowKey false).forward_one.emit _⟩

/-- A comma forgets the key that may have stood before it. -/
theorem Stands.comma (hs : Stands s (',' :: rest) level b tokens) :
    ∃ s', s.token ',' rest = .ok s' ∧ Stands s' rest level true (.flowEntry :: tokens) := by
  obtain ⟨keys, hkeys, hoptional⟩ := (hs.withAllowKey true).dropKey_eq
  have htoken : s.token ',' rest =
      { s with allowKey := true }.dropKey >>= fun s => pure ((s.forward 1).emit .flowEntry) := by
    simp [token, hs.rest, atDocumentMark]
  rw [htoken, hkeys]
  exact ⟨_, rfl, ((hs.withAllowKey true).withKeys hoptional).forward_one.emit _⟩

/-- A token that may be a key is taken off; within a line it is remembered where it started. -/
theorem Stands.keyLike {gone : List Char} (hs : Stands s (gone ++ rest) level b tokens)
    (t : Token) :
    ∃ s', s.keyLike t rest = .ok s' ∧ Stands s' rest level false (t :: tokens) ∧
      (b = true → (∀ c ∈ gone, isBreak c = false) →
        s'.keys.lookup level = some s.keyHere ∧ s'.line = s.line ∧
          s'.index = s.index + gone.length) := by
  obtain ⟨keys, hkeys, hoptional, hlookup⟩ := hs.saveKey_eq
  rw [Scanner.keyLike, hkeys]
  refine ⟨_, rfl, (((hs.withKeys hoptional).withAllowKey false).moveTo gone).emit t, ?_⟩
  intro hb hline
  have htake : s.rest.take gone.length = gone := by rw [hs.rest, List.take_left]
  have hmove : s.rest.length - rest.length = gone.length := by
    rw [hs.rest, List.length_append, Nat.add_sub_cancel]
  obtain ⟨column, hforward⟩ := forward_eq_of_line
    (s := { s with keys := keys, allowKey := false }) (n := gone.length)
    (by rw [← htake]; exact List.length_take_le' _ _) (by rwa [htake])
  rw [Scanner.moveTo, hmove, hforward]
  exact ⟨hlookup hb, rfl, rfl⟩

/-! ### The rules for single tokens -/

variable {ts : List Token}

theorem Ends.nil : Ends [] 0 b tokens (.streamEnd :: tokens).reverse := by
  intro s hs fuel hfuel
  obtain ⟨fuel, rfl⟩ : ∃ n, fuel = n + 1 := ⟨fuel - 1, by omega⟩
  have hskip : s.skipGap s.rest.length.succ = s :=
    skipGap_eq_self (by rw [hs.rest]; rfl) (by rw [hs.rest]; rfl) (by rw [hs.rest]; rfl)
  obtain ⟨keys, hkeys, -⟩ := hs.fresh.dropKey_eq
  unfold run
  rw [hskip, hs.dropStaleKeys_eq, Outcome.ok_bind, unwind_eq hs.fresh (by omega)]
  dsimp only
  split
  · rw [unwind_eq hs.fresh (by omega), hkeys, Outcome.ok_bind]
    exact congrArg (fun tokens => Except.ok (Token.streamEnd :: tokens).reverse) hs.tokens
  · next h => rw [hs.fresh.rest] at h; cases h

theorem Ends.openSequence (h : Ends rest (level + 1) true (.flowSequenceStart :: tokens) ts) :
    Ends ('[' :: rest) level b tokens ts := by
  refine .of_token (by decide) (Nat.le_refl _) h fun s hs => ?_
  have htoken : s.token '[' rest = s.openFlow .flowSequenceStart := by
    simp [token, hs.rest, atDocumentMark]
  rw [htoken]
  exact hs.openFlow _

theorem Ends.openMapping (h : Ends rest (level + 1) true (.flowMappingStart :: tokens) ts) :
    Ends ('{' :: rest) level b tokens ts := by
  refine .of_token (by decide) (Nat.le_refl _) h fun s hs => ?_
  have htoken : s.token '{' rest = s.openFlow .flowMappingStart := by
    simp [token, hs.rest, atDocumentMark]
  rw [htoken]
  exact hs.openFlow _

theorem Ends.closeSequence (h : Ends rest level false (.flowSequenceEnd :: tokens) ts) :
    Ends (']' :: rest) (level + 1) b tokens ts := by
  refine .of_token (by decide) (Nat.le_refl _) h fun s hs => ?_
  have htoken : s.token ']' rest = s.closeFlow .flowSequenceEnd := by
    simp [token, hs.rest, atDocumentMark]
  rw [htoken]
  exact hs.closeFlow _

theorem Ends.closeMapping (h : Ends rest level false (.flowMappingEnd :: tokens) ts) :
    Ends ('}' :: rest) (level + 1) b tokens ts := by
  refine .of_token (by decide) (Nat.le_refl _) h fun s hs => ?_
  have htoken : s.token '}' rest = s.closeFlow .flowMappingEnd := by
    simp [token, hs.rest, atDocumentMark]
  rw [htoken]
  exact hs.closeFlow _

theorem Ends.comma (h : Ends rest level true (.flowEntry :: tokens) ts) :
    Ends (',' :: rest) level b tokens ts :=
  .of_token (by decide) (Nat.le_refl _) h fun _ hs => hs.comma

/-- The token of a text. -/
def textToken (cs : List Char) : Token := .scalar (cs.flatMap unitsOf) false

theorem stringText_append (cs rest : List Char) :
    stringText cs ++ rest = '"' :: (cs.flatMap Json.escapeChar ++ '"' :: rest) := by
  rw [stringText, List.cons_append, List.append_assoc, List.singleton_append]

/-- A written string is one token. -/
theorem Stands.string {cs : List Char} (hs : Stands s (stringText cs ++ rest) level b tokens) :
    s.token '"' (cs.flatMap Json.escapeChar ++ '"' :: rest) = s.keyLike (textToken cs) rest := by
  rw [token_quote (by rw [hs.rest, stringText_append]), quoted_text cs rest (Nat.lt_succ_self _)]
  rfl

theorem Ends.string {cs : List Char} (h : Ends rest level false (textToken cs :: tokens) ts) :
    Ends (stringText cs ++ rest) level b tokens ts := by
  have hlength : rest.length ≤ (cs.flatMap Json.escapeChar ++ '"' :: rest).length := by
    rw [List.length_append, List.length_cons]
    omega
  rw [stringText_append]
  refine .of_token (by decide) hlength h fun s hs => ?_
  rw [← stringText_append] at hs
  obtain ⟨s', hs', hstands, -⟩ := hs.keyLike (textToken cs)
  exact ⟨s', by rw [hs.string, hs'], hstands⟩

/-- A key that is not stale stays the possible key of its level. -/
theorem lookup_fresh {k : PossibleKey} (hk : s.keys.lookup level = some k) (hline : k.line = s.line)
    (hindex : s.index - k.index ≤ 1024) : s.fresh.keys.lookup level = some k := by
  obtain ⟨before, after, hkeys, hbefore⟩ := List.lookup_eq_some_iff.1 hk
  have hfresh : s.isFresh (level, k) = true := by simp [isFresh, hline, hindex]
  refine List.lookup_eq_some_iff.2 ⟨before.filter s.isFresh, after.filter s.isFresh, ?_,
    fun entry hentry => hbefore entry (List.mem_filter.1 hentry).1⟩
  rw [fresh]
  dsimp only
  rw [hkeys, List.filter_append, List.filter_cons_of_pos hfresh]

/-- A written string is on one line. -/
theorem isBreak_stringText (cs : List Char) : ∀ c ∈ stringText cs, isBreak c = false := by
  intro c hc
  have hplain := Json.isPlain_stringText cs c hc
  by_cases hblank : c = ' '
  · subst hblank
    decide
  · have hgap := isGap_of_printable hplain hblank
    rw [isGap, Bool.or_eq_false_iff] at hgap
    exact hgap.2

/-- A short name before a colon is a key. -/
theorem Ends.name {cs : List Char} (hshort : (stringText cs).length ≤ 1024)
    (h : Ends rest (level + 1) false (.value :: textToken cs :: .key :: tokens) ts) :
    Ends (stringText cs ++ ':' :: rest) (level + 1) true tokens ts := by
  intro s hs fuel hfuel
  have hquote : 0 < (stringText cs).length := Nat.succ_pos _
  rw [List.length_append, List.length_cons] at hfuel
  obtain ⟨fuel, rfl⟩ : ∃ n, fuel = n + 2 := ⟨fuel - 2, by omega⟩
  -- the first step takes the name and remembers where it started
  obtain ⟨s', hs', hstands, hkey⟩ := hs.fresh.keyLike (textToken cs)
  obtain ⟨hlookup, hline, hindex⟩ := hkey rfl (isBreak_stringText cs)
  -- the second step is at the colon, where the name is not yet too far back
  have hnear : s'.index - s.fresh.index ≤ 1024 := by omega
  have htoken : s'.fresh.token ':' rest = s'.fresh.valueMark := by
    simp [token, hstands.fresh.rest, atDocumentMark, inFlow_eq hstands.fresh]
  obtain ⟨s'', hs'', hvalue⟩ := hstands.fresh.valueMark (lookup_fresh hlookup hline.symm hnear)
    (congrArg List.length hs.fresh.tokens)
  have hhead := hs
  rw [stringText_append] at hhead
  rw [hhead.run_eq (by decide), hs.fresh.string, hs', Outcome.ok_bind, hstands.run_eq (by decide),
    htoken, hs'', Outcome.ok_bind]
  exact h s'' hvalue fuel (by omega)

end

end ApiScribe.Yaml.Scanner
