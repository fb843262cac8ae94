import ApiScribe.Template.Lexer
import Mathlib.Data.Option.Basic

/-!
# Tokens and the last line end of a text

A line end at the end of a text only matters to the text outside of tags.  No lexeme contains it,
no mark contains it, and what follows a lexeme is followed by it unless a hyphen took it away.  So
the tokens of a text without its last line end and those of the whole text differ at most in a text
at their end: `tokenize_differAtEnd`.

Every scanner has a lemma of its own.  Those that take a lexeme commute with the line end; those
that may take blanks away give `Trailing` rests.
-/

namespace ApiScribe.Template

open Text

/-! ### Tokens that differ at their end -/

/-- The tokens are none or a single text outside of tags. -/
def IsLastText (ts : List Token) : Prop := ts = [] ∨ ∃ line s, ts = [⟨line, .data s⟩]

/-- Tokens that differ at most in a text at their end. -/
inductive Tokens.DifferAtEnd (t t' : Tokens) : Prop where
  | same (h : t'.items = t.items)
  | text (common last last' : List Token) (h : t = ⟨common ++ last, none⟩)
      (h' : t' = ⟨common ++ last', none⟩) (hlast : IsLastText last) (hlast' : IsLastText last')

theorem isLastText_dataToken (line : Nat) (cs : List Char) :
    IsLastText (Lexer.dataToken line cs) := by
  unfold Lexer.dataToken
  split
  · exact .inl rfl
  · exact .inr ⟨_, _, rfl⟩

theorem Tokens.DifferAtEnd.prepend {t t' : Tokens} (h : t.DifferAtEnd t') (before : List Token) :
    DifferAtEnd ⟨before ++ t.items, t.fault⟩ ⟨before ++ t'.items, t'.fault⟩ := by
  cases h with
  | same h => exact .same (congrArg (before ++ ·) h)
  | text common last last' h h' hlast hlast' =>
    subst h h'
    exact .text (before ++ common) last last' (by rw [List.append_assoc])
      (by rw [List.append_assoc]) hlast hlast'

/-! ### Numbers, names and quoted texts -/

/-- What is read, with what follows it and a line end. -/
def lineEnded {α : Type} (found : α × List Char) : α × List Char := (found.1, found.2 ++ ['\n'])

theorem sign_cons (c : Char) (cs : List Char) : sign (c :: cs) =
    if c = '-' then (true, cs) else if c = '+' then (false, cs) else (false, c :: cs) := by
  unfold sign
  split <;> simp_all

theorem sign_lineEnd (cs : List Char) : sign (cs ++ ['\n']) = lineEnded (sign cs) := by
  cases cs with
  | nil => rfl
  | cons c cs =>
    rw [List.cons_append, sign_cons, sign_cons]
    split
    · rfl
    · split <;> rfl

theorem digitRun_cons (d : Char → Bool) (c : Char) (cs : List Char) : digitRun d (c :: cs) =
    if d c || (c == '_' && cs.head?.any d) then (c :: (digitRun d cs).1, (digitRun d cs).2)
    else ([], c :: cs) := by
  cases cs <;> simp only [digitRun] <;> grind

theorem digitRun_lineEnd {d : Char → Bool} (hd : d '\n' = false) (cs : List Char) :
    digitRun d (cs ++ ['\n']) = lineEnded (digitRun d cs) := by
  induction cs with
  | nil => simp [digitRun_cons, digitRun, hd, lineEnded]
  | cons c cs ih =>
    have hhead : (cs ++ ['\n']).head?.any d = cs.head?.any d := by
      cases cs with
      | nil => exact hd
      | cons => rfl
    rw [List.cons_append, digitRun_cons, digitRun_cons, hhead, ih]
    split <;> rfl

theorem decimalRun_lineEnd (cs : List Char) :
    decimalRun (cs ++ ['\n']) = lineEnded (decimalRun cs) := by
  unfold decimalRun
  rw [digitRun_lineEnd rfl]
  cases cs with
  | nil => rfl
  | cons c cs =>
    rw [List.cons_append, List.head?_cons, List.head?_cons]
    split <;> rfl

theorem fractionRun_cons (c : Char) (cs : List Char) :
    fractionRun (c :: cs) = if c = '.' then decimalRun cs else ([], c :: cs) := by
  unfold fractionRun
  split <;> simp_all

theorem fractionRun_lineEnd (cs : List Char) :
    fractionRun (cs ++ ['\n']) = lineEnded (fractionRun cs) := by
  cases cs with
  | nil => rfl
  | cons c cs =>
    rw [List.cons_append, fractionRun_cons, fractionRun_cons, decimalRun_lineEnd]
    split <;> rfl

theorem exponent?_lineEnd (cs : List Char) :
    exponent? (cs ++ ['\n']) = (exponent? cs).map lineEnded := by
  cases cs with
  | nil => rfl
  | cons e cs =>
    simp only [List.cons_append, exponent?, sign_lineEnd, lineEnded, decimalRun_lineEnd]
    split
    · split <;> rfl
    · rfl

theorem float?_lineEnd (cs : List Char) : float? (cs ++ ['\n']) = (float? cs).map lineEnded := by
  unfold float?
  simp only [decimalRun_lineEnd, lineEnded, fractionRun_lineEnd]
  generalize decimalRun cs = whole
  generalize fractionRun whole.2 = fraction
  rw [← apply_ite (· ++ ['\n']), exponent?_lineEnd]
  split
  · rfl
  · cases exponent? _ with
    | some e => rfl
    | none =>
      dsimp only [Option.map_none]
      split <;> rfl

theorem integerIn?_lineEnd (base : Nat) (cs : List Char) :
    integerIn? base (cs ++ ['\n']) = (integerIn? base cs).map lineEnded := by
  unfold integerIn?
  rw [digitRun_lineEnd (show (digit? '\n').any (· < base) = false from rfl)]
  dsimp only [lineEnded]
  split <;> rfl

theorem markedInteger?_lineEnd (mark : Char) (cs : List Char) :
    markedInteger? mark (cs ++ ['\n']) = (markedInteger? mark cs).map lineEnded := by
  unfold markedInteger?
  split
  · exact integerIn?_lineEnd 2 cs
  · exact integerIn?_lineEnd 8 cs
  · exact integerIn?_lineEnd 16 cs
  · rfl

theorem integer?_of_ne {c : Char} (hc : c ≠ '0') (cs : List Char) :
    integer? (c :: cs) = if c.isDigit then integerIn? 10 (c :: cs) else none := by
  unfold integer?
  split <;> simp_all

theorem integer?_lineEnd (cs : List Char) :
    integer? (cs ++ ['\n']) = (integer? cs).map lineEnded := by
  cases cs with
  | nil => rfl
  | cons c cs =>
    by_cases hc : c = '0'
    · subst hc
      cases cs with
      | nil => rfl
      | cons mark cs =>
        have hzeros := digitRun_lineEnd (d := (· == '0')) rfl ('0' :: mark :: cs)
        simp only [List.cons_append] at hzeros
        simp only [List.cons_append, integer?, markedInteger?_lineEnd, hzeros]
        cases markedInteger? mark cs <;> rfl
    · rw [List.cons_append, integer?_of_ne hc, integer?_of_ne hc, ← List.cons_append,
        integerIn?_lineEnd]
      split <;> rfl

theorem quotedBody_of_ne (quote : Char) {c : Char} (hc : c ≠ '\\') (cs : List Char) :
    quotedBody quote (c :: cs) = if c == quote then some ([], cs)
      else (quotedBody quote cs).map fun (body, rest) => (c :: body, rest) := by
  rw [quotedBody]
  · simp [hc]
  · exact fun _ _ h _ => hc h

theorem quotedBody_lineEnd {quote : Char} (hend : quote ≠ '\n') (hslash : quote ≠ '\\')
    (cs : List Char) : quotedBody quote (cs ++ ['\n']) = (quotedBody quote cs).map lineEnded := by
  fun_induction quotedBody quote cs with
  | case1 => simp [quotedBody, hend.symm]
  | case2 c cs ih =>
    rw [List.cons_append, List.cons_append, quotedBody, ih, Option.map_map, Option.map_map]
    rfl
  | case3 c cs h hc =>
    have hne : c ≠ '\\' := fun hs => hslash (eq_of_beq hc ▸ hs)
    rw [List.cons_append, quotedBody_of_ne quote hne, if_pos hc]
    rfl
  | case4 c cs h hc hs =>
    -- a backslash that protects nothing protects the line end, and then there is no closing quote
    have hs := eq_of_beq hs
    subst hs
    cases cs with
    | nil => rfl
    | cons d ds => exact (h d ds rfl rfl).elim
  | case5 c cs h hc hs ih =>
    have hne : c ≠ '\\' := fun h => hs (beq_iff_eq.2 h)
    rw [List.cons_append, quotedBody_of_ne quote hne, if_neg hc, ih, Option.map_map,
      Option.map_map]
    rfl

namespace Lexer

/-! ### Lexemes -/

theorem take_append_sub (cs rest : List Char) :
    (cs ++ ['\n']).take ((cs ++ ['\n']).length - (rest ++ ['\n']).length) =
      cs.take (cs.length - rest.length) := by
  rw [List.length_append, List.length_append, Nat.add_sub_add_right,
    List.take_append_of_le_length (Nat.sub_le ..)]

theorem linesTo_lineEnd (cs rest : List Char) :
    linesTo (cs ++ ['\n']) (rest ++ ['\n']) = linesTo cs rest := by
  unfold linesTo
  rw [take_append_sub]

theorem decimalDigits_lineEnd (cs rest : List Char) :
    decimalDigits (cs ++ ['\n']) (rest ++ ['\n']) = decimalDigits cs rest := by
  unfold decimalDigits
  rw [take_append_sub]

theorem takeWhile_isWordPart_lineEnd (cs : List Char) :
    (cs ++ ['\n']).takeWhile isWordPart = cs.takeWhile isWordPart := by
  have hend : ['\n'].takeWhile isWordPart = [] := by decide +kernel
  rw [List.takeWhile_append]
  split
  · next h => rw [hend, List.append_nil, (List.takeWhile_prefix isWordPart).eq_of_length h]
  · rfl

theorem word?_lineEnd (line : Nat) (afterPoint : Bool) (cs : List Char) :
    word? line afterPoint (cs ++ ['\n']) = (word? line afterPoint cs).map lineEnded := by
  have hfloat : (if afterPoint then none else float? (cs ++ ['\n'])) =
      (if afterPoint then none else float? cs).map lineEnded := by
    rw [float?_lineEnd]
    split <;> rfl
  have hword : (cs.takeWhile isWordPart).length ≤ cs.length :=
    (List.takeWhile_prefix isWordPart).length_le
  unfold word?
  rw [hfloat, integer?_lineEnd, takeWhile_isWordPart_lineEnd]
  cases (if afterPoint then none else float? cs) with
  | some x => rfl
  | none =>
    cases integer? cs with
    | some n =>
      dsimp only [Option.map_none, Option.map_some, lineEnded]
      rw [decimalDigits_lineEnd]
    | none =>
      dsimp only [Option.map_none]
      rw [List.drop_append_of_le_length hword]
      split
      · rfl
      · cases cs with
        | nil => rfl
        | cons quote body =>
          dsimp only [List.cons_append]
          split
          · next hquote =>
            have hends : quote ≠ '\n' ∧ quote ≠ '\\' := by
              rcases Bool.or_eq_true_iff.1 hquote with h | h <;> cases eq_of_beq h <;> decide
            rw [quotedBody_lineEnd hends.1 hends.2, Option.map_map, Option.map_map]
            rfl
          · rfl

/-- An operator of two characters is no single character, and it contains no line end. -/
theorem contains_doubleSigns_eq_false (c : Char) :
    doubleSigns.contains (String.ofList [c]) = false ∧
      doubleSigns.contains (String.ofList [c, '\n']) = false := by
  simp [doubleSigns, String.ext_iff]

theorem sign?_cons (c d : Char) (cs : List Char) : sign? (c :: d :: cs) =
    if doubleSigns.contains (String.ofList [c, d]) then some (String.ofList [c, d], cs)
    else if singleSigns.contains c then some (String.singleton c, d :: cs) else none :=
  rfl

theorem sign?_lineEnd (cs : List Char) : sign? (cs ++ ['\n']) = (sign? cs).map lineEnded := by
  match cs with
  | [] => rfl
  | [c] =>
    obtain ⟨hone, htwo⟩ := contains_doubleSigns_eq_false c
    have hsingle : sign? [c] =
        if singleSigns.contains c then some (String.singleton c, []) else none := by
      rw [sign?, List.take_nil, hone, if_neg Bool.false_ne_true]
    rw [List.cons_append, List.nil_append, sign?_cons, htwo, if_neg Bool.false_ne_true, hsingle]
    split <;> rfl
  | c :: d :: cs =>
    rw [List.cons_append, List.cons_append, sign?_cons, sign?_cons]
    split
    · rfl
    · split <;> rfl

/-! ### Marks -/

theorem dropLead?_lineEnd {mark : List Char} (hmark : '\n' ∉ mark) (cs : List Char) :
    dropLead? mark (cs ++ ['\n']) = (dropLead? mark cs).map (· ++ ['\n']) := by
  induction mark generalizing cs with
  | nil => rfl
  | cons m mark ih =>
    obtain ⟨hm, hmark⟩ := not_or.1 (mt List.mem_cons.2 hmark)
    cases cs with
    | nil => simp [dropLead?, Ne.symm hm]
    | cons c cs =>
      rw [List.cons_append, dropLead?, dropLead?, ih hmark]
      split <;> rfl

theorem stripSign_cons (c : Char) (cs : List Char) : stripSign (c :: cs) =
    if c = '-' then (some '-', cs) else if c = '+' then (some '+', cs) else (none, c :: cs) := by
  unfold stripSign
  split <;> simp_all

theorem stripSign_lineEnd (cs : List Char) :
    stripSign (cs ++ ['\n']) = lineEnded (stripSign cs) := by
  cases cs with
  | nil => rfl
  | cons c cs =>
    rw [List.cons_append, stripSign_cons, stripSign_cons]
    split
    · rfl
    · split <;> rfl

theorem cutTag_lineEnd (cs : List Char) : cutTag (cs ++ ['\n']) =
    (cutTag cs).map fun (before, mark, after) => (before, mark, after ++ ['\n']) := by
  fun_induction cutTag cs with
  | case1 => rfl
  | case2 c => simp [cutTag]
  | case3 c d cs h =>
    rw [List.cons_append, List.cons_append, cutTag, if_pos h]
    rfl
  | case4 c d cs h ih =>
    rw [List.cons_append, List.cons_append, cutTag, if_neg h, ← List.cons_append, ih,
      Option.map_map, Option.map_map]
    rfl

/-! ### What may lose its line end to a hyphen -/

/-- The second text is the first with a line end, unless both are empty. -/
inductive Trailing : List Char → List Char → Prop where
  | ended (cs : List Char) : Trailing cs (cs ++ ['\n'])
  | none : Trailing [] []

theorem trailing_trimStart {cs cs' : List Char} (h : Trailing cs cs') :
    Trailing (trimStart cs) (trimStart cs') := by
  cases h with
  | none => exact .none
  | ended cs =>
    unfold trimStart
    rw [List.dropWhile_append]
    split
    · next hcs =>
      rw [List.isEmpty_iff.1 hcs]
      exact .none
    · exact .ended _

theorem eq_or_exists_of_rel {α β : Type} {r : α → β → Prop} {x : Option α} {y : Option β}
    (h : Option.Rel r x y) :
    (x = none ∧ y = none) ∨ ∃ a b, x = some a ∧ y = some b ∧ r a b := by
  cases h with
  | some h => exact .inr ⟨_, _, rfl, rfl, h⟩
  | none => exact .inl ⟨rfl, rfl⟩

theorem trailing_map_trimStart {x y : Option (List Char)} (h : Option.Rel Trailing x y) :
    Option.Rel Trailing (x.map trimStart) (y.map trimStart) := by
  cases h with
  | some h => exact .some (trailing_trimStart h)
  | none => exact .none

theorem close?_eq (mark : List Char) (plus : Bool) (cs : List Char) : close? mark plus cs =
    if (stripSign cs).1 = some '-' then (dropLead? mark (stripSign cs).2).map trimStart
    else if (stripSign cs).1.isSome && !plus then none else dropLead? mark (stripSign cs).2 := by
  unfold close?
  split
  · next h => simp [h]
  · next sign rest hsign h => cases plus <;> simp_all
  · next h => simp [h]

section
variable {mark : List Char} (hmark : '\n' ∉ mark)

include hmark

theorem rel_dropLead? {cs cs' : List Char} (h : Trailing cs cs') :
    Option.Rel Trailing (dropLead? mark cs) (dropLead? mark cs') := by
  cases h with
  | ended cs =>
    rw [dropLead?_lineEnd hmark]
    cases dropLead? mark cs with
    | none => exact .none
    | some rest => exact .some (.ended rest)
  | none =>
    cases mark with
    | nil => exact .some .none
    | cons => exact .none

theorem rel_close? (plus : Bool) {cs cs' : List Char} (h : Trailing cs cs') :
    Option.Rel Trailing (close? mark plus cs) (close? mark plus cs') := by
  have hsign : (stripSign cs).1 = (stripSign cs').1 ∧
      Trailing (stripSign cs).2 (stripSign cs').2 := by
    cases h with
    | ended cs =>
      rw [stripSign_lineEnd]
      exact ⟨rfl, .ended _⟩
    | none => exact ⟨rfl, .none⟩
  have hrest := rel_dropLead? hmark hsign.2
  rw [close?_eq, close?_eq, hsign.1]
  split
  · exact trailing_map_trimStart hrest
  · split
    · exact .none
    · exact hrest

theorem rel_wordBlock? (plus : Bool) {cs cs' : List Char} (h : Trailing cs cs') :
    Option.Rel Trailing (wordBlock? mark plus cs) (wordBlock? mark plus cs') := by
  have hlead := rel_dropLead? hmark (trailing_trimStart h)
  unfold wordBlock?
  rcases eq_or_exists_of_rel hlead with ⟨hx, hy⟩ | ⟨rest, rest', hx, hy, hrest⟩
  · rw [hx, hy]
    exact .none
  · rw [hx, hy]
    exact rel_close? (by decide) plus (trailing_trimStart hrest)

end

theorem rel_tagEnd? (ending : Lexeme) {cs cs' : List Char} (h : Trailing cs cs') :
    Option.Rel Trailing (tagEnd? ending cs) (tagEnd? ending cs') := by
  have hmark : '\n' ∉ closeMark ending := by
    unfold closeMark
    split <;> decide
  unfold tagEnd?
  split
  · exact rel_close? hmark false h
  · exact rel_close? hmark true h

/-- A scanner finds the same in two texts, but for a line end after it. -/
abbrev SameFound {α : Type} (x y : Option (α × List Char)) : Prop :=
  Option.Rel (fun found found' => found.1 = found'.1 ∧ Trailing found.2 found'.2) x y

theorem SameFound.map {α β : Type} {x y : Option (α × List Char)} (h : SameFound x y)
    (f : α → β) : SameFound (x.map fun (a, rest) => (f a, rest))
      (y.map fun (a, rest) => (f a, rest)) := by
  cases h with
  | some h => exact .some ⟨congrArg f h.1, h.2⟩
  | none => exact .none

theorem sameFound_comment? (cs : List Char) :
    SameFound (comment? cs) (comment? (cs ++ ['\n'])) := by
  induction cs with
  | nil => exact .none
  | cons c cs ih =>
    have hmark : '\n' ∉ ['#', '\x7d'] := by decide
    have hclose := rel_close? hmark true (.ended (c :: cs))
    rw [List.cons_append] at hclose ⊢
    rw [comment?, comment?]
    rcases eq_or_exists_of_rel hclose with ⟨hx, hy⟩ | ⟨rest, rest', hx, hy, hrest⟩
    · rw [hx, hy]
      exact ih.map _
    · rw [hx, hy]
      exact .some ⟨rfl, hrest⟩

theorem sameFound_rawEnd? (cs : List Char) :
    SameFound (rawEnd? cs) (rawEnd? (cs ++ ['\n'])) := by
  unfold rawEnd?
  rw [dropLead?_lineEnd (by decide)]
  cases dropLead? ['\x7b', '%'] cs with
  | none => exact .none
  | some body =>
    have hmark : '\n' ∉ "endraw".toList := by decide
    have hword := rel_wordBlock? hmark true (.ended (stripSign body).2)
    simp only [Option.map_some, Option.bind_eq_bind, Option.bind_some, stripSign_lineEnd, lineEnded]
    rcases eq_or_exists_of_rel hword with ⟨hx, hy⟩ | ⟨rest, rest', hx, hy, hrest⟩
    · rw [hx, hy]
      exact .none
    · rw [hx, hy]
      exact .some ⟨rfl, hrest⟩

theorem sameFound_raw? {cs cs' : List Char} (h : Trailing cs cs') :
    SameFound (raw? cs) (raw? cs') := by
  cases h with
  | none => exact .none
  | ended cs =>
    induction cs with
    | nil => exact .none
    | cons c cs ih =>
      have hend := sameFound_rawEnd? (c :: cs)
      rw [List.cons_append] at hend ⊢
      rw [raw?, raw?]
      rcases eq_or_exists_of_rel hend with ⟨hx, hy⟩ | ⟨⟨sign, rest⟩, ⟨_, rest'⟩, hx, hy, rfl, hrest⟩
      · rw [hx, hy]
        exact ih.map fun found => (c :: found.1, found.2)
      · rw [hx, hy]
        exact .some ⟨rfl, hrest⟩

/-! ### Whole texts -/

@[simp]
theorem run_nil (size fuel : Nat) (mode : Mode) (line : Nat) (opened : List String)
    (afterPoint : Bool) : run size fuel mode line opened afterPoint [] = ⟨[], none⟩ := by
  cases fuel <;> cases mode <;> rfl

section
variable {size size' : Nat}

/-- Runs of the same steps on a text and on the text with a line end differ at their end. -/
def RunsAlike (size size' fuel : Nat) : Prop :=
  ∀ (mode : Mode) (line : Nat) (opened : List String) (afterPoint : Bool) (cs : List Char),
    (run size fuel mode line opened afterPoint cs).DifferAtEnd
      (run size' fuel mode line opened afterPoint (cs ++ ['\n']))

variable {fuel : Nat} (ih : RunsAlike size size' fuel)

include ih

/-- After a scanner the lines are the same, unless nothing is left. -/
theorem RunsAlike.after (mode : Mode) (line : Nat) (opened : List String) (cs : List Char)
    {rest rest' : List Char} (h : Trailing rest rest') :
    (run size fuel mode (line + linesTo cs rest) opened false rest).DifferAtEnd
      (run size' fuel mode (line + linesTo (cs ++ ['\n']) rest') opened false rest') := by
  cases h with
  | ended rest =>
    rw [linesTo_lineEnd]
    exact ih ..
  | none =>
    rw [run_nil, run_nil]
    exact .same rfl

theorem RunsAlike.text (line : Nat) (opened : List String) (afterPoint : Bool) (cs : List Char) :
    (run size (fuel + 1) .text line opened afterPoint cs).DifferAtEnd
      (run size' (fuel + 1) .text line opened afterPoint (cs ++ ['\n'])) := by
  rw [run, run, cutTag_lineEnd]
  cases cutTag cs with
  | none => exact .text [] _ _ rfl rfl (isLastText_dataToken ..) (isLastText_dataToken ..)
  | some found =>
    obtain ⟨before, mark, after⟩ := found
    simp only [Option.map_some, stripSign_lineEnd, lineEnded]
    split
    · rcases eq_or_exists_of_rel (sameFound_comment? (stripSign after).2) with
        ⟨hx, hy⟩ | ⟨⟨text, rest⟩, ⟨_, rest'⟩, hx, hy, -, hrest⟩
      · rw [hx, hy]
        exact .same rfl
      · rw [hx, hy]
        exact (ih.after _ _ _ _ hrest).prepend _
    · split
      · exact (ih ..).prepend _
      · have hmark : '\n' ∉ "raw".toList := by decide
        have hword := rel_wordBlock? hmark false (.ended (stripSign after).2)
        rcases eq_or_exists_of_rel hword with ⟨hx, hy⟩ | ⟨inside, inside', hx, hy, hinside⟩
        · rw [hx, hy]
          exact (ih ..).prepend _
        · rw [hx, hy]
          dsimp only
          rcases eq_or_exists_of_rel (sameFound_raw? hinside) with
            ⟨hx, hy⟩ | ⟨⟨⟨text, sign⟩, rest⟩, ⟨_, rest'⟩, hx, hy, rfl, hrest⟩
          · rw [hx, hy]
            exact .same rfl
          · rw [hx, hy]
            cases hinside with
            | none => cases hx
            | ended inside =>
              dsimp only
              rw [linesTo_lineEnd]
              exact (ih.after _ _ _ _ hrest).prepend _

theorem RunsAlike.tag (ending : Lexeme) (line : Nat) (opened : List String) (afterPoint : Bool)
    (cs : List Char) : (run size (fuel + 1) (.tag ending) line opened afterPoint cs).DifferAtEnd
      (run size' (fuel + 1) (.tag ending) line opened afterPoint (cs ++ ['\n'])) := by
  cases cs with
  | nil =>
    have hend : tagEnd? ending ['\n'] = none := by cases ending <;> rfl
    rw [List.nil_append, run_nil, run, hend]
    dsimp only
    rw [ite_self]
    exact .same (congrArg Tokens.items (run_nil ..))
  | cons c cs =>
    have hend : Option.Rel Trailing (if opened.isEmpty then tagEnd? ending (c :: cs) else none)
        (if opened.isEmpty then tagEnd? ending (c :: cs ++ ['\n']) else none) := by
      split
      · exact rel_tagEnd? ending (.ended _)
      · exact .none
    rw [List.cons_append] at hend ⊢
    rw [run, run]
    rcases eq_or_exists_of_rel hend with ⟨hx, hy⟩ | ⟨rest, rest', hx, hy, hrest⟩
    · rw [hx, hy]
      dsimp only
      split
      · exact ih ..
      · rw [← List.cons_append, word?_lineEnd, sign?_lineEnd]
        cases word? line afterPoint (c :: cs) with
        | some found =>
          obtain ⟨lexeme, rest⟩ := found
          cases lexeme with
          | error => exact .same rfl
          | ok lexeme => exact (ih.after _ _ _ _ (.ended rest)).prepend [_]
        | none =>
          cases sign? (c :: cs) with
          | none => exact .same rfl
          | some found =>
            obtain ⟨symbol, rest⟩ := found
            dsimp only [Option.map_some, Option.map_none, lineEnded]
            cases brackets opened symbol with
            | error => exact .same rfl
            | ok => exact (ih ..).prepend [_]
    · rw [hx, hy]
      exact (ih.after _ _ _ _ hrest).prepend [_]

end

/-- The steps from one place on a text, and on the text with a line end, differ at their end. -/
theorem runsAlike (size size' fuel : Nat) : RunsAlike size size' fuel := by
  induction fuel with
  | zero => exact fun mode _ _ _ _ => .same rfl
  | succ fuel ih =>
    intro mode line opened afterPoint cs
    cases mode with
    | text => exact ih.text line opened afterPoint cs
    | tag ending => exact ih.tag ending line opened afterPoint cs

/-- The text that keeps its last line end is the other one, maybe with a line end. -/
theorem normalize_true (source : List Char) :
    normalize true source = normalize false source ∨
      normalize true source = normalize false source ++ ['\n'] := by
  unfold normalize
  rw [if_pos rfl, if_neg Bool.false_ne_true]
  split
  · next before h =>
    exact .inr (by rw [← List.reverse_cons, ← h, List.reverse_reverse])
  · exact .inl rfl

end Lexer

/-- The tokens of a text without its last line end and those of the whole text differ at most in a
text at their end. -/
theorem tokenize_differAtEnd (source : List Char) :
    (tokenize false source).DifferAtEnd (tokenize true source) := by
  unfold tokenize
  rcases Lexer.normalize_true source with h | h
  · rw [h]
    exact .same rfl
  · rw [h]
    exact Lexer.runsAlike ..

end ApiScribe.Template
