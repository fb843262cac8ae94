import Mathlib.Data.List.Induction
import ApiScribe.Proofs.Json.Numbers
import ApiScribe.Proofs.Json.Values

/-!
# The grammar of JSON

`Spelling levels s part rest` says that a value, the items of an array or the members of an object
stand at the start of `s`, with brackets nested at most so many levels deep, and that `rest` comes
after them.  `Json.readWithin` reads the texts that spell a value, and no others, as the value that
they spell (`readWithin_eq_ok`).  A text that it neither reads nor finds malformed has an integer of
too many digits, or a bracket for which no level is left, at a place that the grammar leads to
(`comesToLong_of_readWithin`, `comesTooDeep_of_readWithin`).

`IsObject` keeps the members of an object as they stand in the text.  Of several members of a name
the object has the last one (`member?_ofMembers`).
-/

namespace ApiScribe.Json

/-! ### The grammar -/

/-- Some space, and what comes after it. -/
def Spaces (s rest : List Char) : Prop :=
  ∃ gap, (∀ c ∈ gap, isSpace c) ∧ s = gap ++ rest

/-- The units of a string after its opening quote, and what comes after its closing quote. -/
inductive SpellsUnits : List Char → List Nat → List Char → Prop
  | close {rest : List Char} : SpellsUnits ('"' :: rest) [] rest
  | plain {c : Char} {s rest : List Char} {ns : List Nat}
      (hc : c ≠ '"' ∧ c ≠ '\\' ∧ 0x20 ≤ c.toNat) (h : SpellsUnits s ns rest) :
    SpellsUnits (c :: s) (c.toNat :: ns) rest
  | escape {letter c : Char} {s rest : List Char} {ns : List Nat}
      (hletter : shortEscape? letter = some c) (h : SpellsUnits s ns rest) :
    SpellsUnits ('\\' :: letter :: s) (c.toNat :: ns) rest
  | unit {a b c d : Char} {n : Nat} {s rest : List Char} {ns : List Nat}
      (hn : fourHex? a b c d = some n) (h : SpellsUnits s ns rest) :
    SpellsUnits ('\\' :: 'u' :: a :: b :: c :: d :: s) (n :: ns) rest

/-- A string after its opening quote, by its code points. -/
def SpellsString (s : List Char) (points : List Nat) (rest : List Char) : Prop :=
  ∃ ns, SpellsUnits s ns rest ∧ points = joinSurrogates ns

/-- A part of a text: a value, the items of an array or the members of an object. -/
inductive Part where
  | value (v : Json)
  | items (vs : List Json)
  | members (ms : List (Name × Json))

/-- A part stands at the start of `s`, with brackets nested at most so many levels deep, and `rest`
comes after it.  Items and members end with the bracket that closes them. -/
inductive Spelling : Nat → List Char → Part → List Char → Prop
  | string {levels : Nat} {body rest : List Char} {points : List Nat}
      (h : SpellsString body points rest) :
    Spelling levels ('"' :: body) (.value (ofCodePoints points)) rest
  | word {levels : Nat} {word rest : List Char} {v : Json} (h : (word, v) ∈ words) :
    Spelling levels (word ++ rest) (.value v) rest
  | number {levels : Nat} {word rest : List Char} {n : NumberText} {v : Json} (h : IsNumber word n)
      (hv : n.value = .ok v) : Spelling levels (word ++ rest) (.value v) rest
  | emptyArray {levels : Nat} {body rest : List Char} (h : Spaces body (']' :: rest)) :
    Spelling (levels + 1) ('[' :: body) (.value (.array [])) rest
  | array {levels : Nat} {body s rest : List Char} {vs : List Json} (h : Spaces body s)
      (hvs : Spelling levels s (.items vs) rest) :
    Spelling (levels + 1) ('[' :: body) (.value (.array vs)) rest
  | emptyObject {levels : Nat} {body rest : List Char} (h : Spaces body ('}' :: rest)) :
    Spelling (levels + 1) ('{' :: body) (.value (.object [])) rest
  | object {levels : Nat} {body s rest : List Char} {ms : List (Name × Json)} (h : Spaces body s)
      (hms : Spelling levels s (.members ms) rest) :
    Spelling (levels + 1) ('{' :: body) (.value (ofMembers ms)) rest
  | lastItem {levels : Nat} {s mid rest : List Char} {v : Json}
      (hv : Spelling levels s (.value v) mid) (h : Spaces mid (']' :: rest)) :
    Spelling levels s (.items [v]) rest
  | item {levels : Nat} {s mid after next rest : List Char} {v : Json} {vs : List Json}
      (hv : Spelling levels s (.value v) mid) (h : Spaces mid (',' :: after))
      (hnext : Spaces after next) (hvs : Spelling levels next (.items vs) rest) :
    Spelling levels s (.items (v :: vs)) rest
  | lastMember {levels : Nat} {body colon after s mid rest : List Char} {points : List Nat}
      {v : Json} (hname : SpellsString body points colon) (hcolon : Spaces colon (':' :: after))
      (hafter : Spaces after s) (hv : Spelling levels s (.value v) mid)
      (h : Spaces mid ('}' :: rest)) :
    Spelling levels ('"' :: body) (.members [(Name.ofCodePoints points, v)]) rest
  | member {levels : Nat} {body colon after s mid more next rest : List Char} {points : List Nat}
      {v : Json} {ms : List (Name × Json)} (hname : SpellsString body points colon)
      (hcolon : Spaces colon (':' :: after)) (hafter : Spaces after s)
      (hv : Spelling levels s (.value v) mid) (h : Spaces mid (',' :: more))
      (hnext : Spaces more next) (hms : Spelling levels next (.members ms) rest) :
    Spelling levels ('"' :: body) (.members ((Name.ofCodePoints points, v) :: ms)) rest

/-- The text is JSON for the value, with brackets nested at most so many levels deep. -/
def IsJson (levels : Nat) (text : List Char) (v : Json) : Prop :=
  ∃ s rest, Spaces text s ∧ Spelling levels s (.value v) rest ∧ Spaces rest []

/-! ### Space -/

theorem spaces_skipSpace (s : List Char) : Spaces s (skipSpace s) := by
  refine ⟨s.takeWhile isSpace, ?_, List.takeWhile_append_dropWhile.symm⟩
  intro c hc
  exact List.mem_takeWhile_imp hc

/-- All space is skipped if what comes after it is none. -/
theorem Spaces.skipSpace_eq {s rest : List Char} (h : Spaces s rest)
    (hrest : ∀ c more, rest = c :: more → isSpace c = false) : skipSpace s = rest := by
  obtain ⟨gap, hgap, rfl⟩ := h
  rw [skipSpace, List.dropWhile_append_of_pos hgap]
  cases rest with
  | nil => rfl
  | cons c more =>
    apply List.dropWhile_cons_of_neg
    rw [hrest c more rfl]
    exact Bool.false_ne_true

/-- What comes after a mark, space apart, is shorter than the text that the mark stands in. -/
theorem length_skipSpace_lt {s more : List Char} {c : Char} (h : skipSpace s = c :: more) :
    (skipSpace more).length < s.length := by
  have hs := length_skipSpace_le s
  have hmore := length_skipSpace_le more
  rw [h, List.length_cons] at hs
  omega

theorem Spaces.skipSpace_cons {s rest : List Char} {c : Char} (h : Spaces s (c :: rest))
    (hc : isSpace c = false) : skipSpace s = c :: rest := by
  apply h.skipSpace_eq
  intro d more heq
  cases heq
  exact hc

/-- Space before what ends a value ends it too. -/
theorem Spaces.ends {s rest : List Char} (h : Spaces s rest) (hrest : Ends rest) : Ends s := by
  obtain ⟨gap, hgap, rfl⟩ := h
  cases gap with
  | nil => exact hrest
  | cons d gap =>
    intro c more heq
    cases heq
    exact .inl (hgap _ List.mem_cons_self)

theorem ends_cons {c : Char} (hc : c ∈ [',', ']', '}']) (rest : List Char) :
    Ends (c :: rest) := by
  intro d more heq
  cases heq
  exact .inr hc

/-! ### Strings -/

theorem spellsUnits_of_stringUnits {opening s rest : List Char} {ns : List Nat}
    (h : stringUnits opening s = .ok (ns, rest)) : SpellsUnits s ns rest := by
  fun_induction stringUnits opening s generalizing ns rest with
  | case1 | case3 | case4 | case6 | case7 | case9 => cases h
  | case2 =>
    cases h
    exact .close
  | case5 a b c d x body n hn ih =>
    obtain ⟨⟨more, last⟩, hmore, hr⟩ := Outcome.map_eq_ok.1 h
    cases hr
    exact .unit hn (ih hmore)
  | case8 letter body _ _ c hc ih =>
    obtain ⟨⟨more, last⟩, hmore, hr⟩ := Outcome.map_eq_ok.1 h
    cases hr
    exact .escape hc (ih hmore)
  | case10 c body hquote hlast _ _ hbackslash hcontrol ih =>
    obtain ⟨⟨more, last⟩, hmore, hr⟩ := Outcome.map_eq_ok.1 h
    cases hr
    refine .plain ⟨hquote, ?_, Nat.not_lt.1 hcontrol⟩ (ih hmore)
    intro hc
    cases body with
    | nil => exact hlast hc rfl
    | cons d body => exact hbackslash d body hc rfl

theorem SpellsUnits.exists_cons {s rest : List Char} {ns : List Nat} (h : SpellsUnits s ns rest) :
    ∃ c more, s = c :: more := by
  cases h <;> exact ⟨_, _, rfl⟩

theorem stringUnits_of_spellsUnits {s rest : List Char} {ns : List Nat}
    (h : SpellsUnits s ns rest) (opening : List Char) :
    stringUnits opening s = .ok (ns, rest) := by
  induction h with
  | close => exact stringUnits_quote opening _
  | plain hc _ ih =>
    rw [stringUnits_plain hc.1 hc.2.1 hc.2.2, ih]
    rfl
  | @escape letter c _ _ _ hletter _ ih =>
    -- the reader looks for four digits after a `u` before it looks for a short escape
    have hu : letter ≠ 'u' := by
      rintro rfl
      cases hletter
    rw [stringUnits_shortEscape hu hletter, ih]
    rfl
  | unit hn h ih =>
    -- the reader asks for a character behind the digits, and a string that is closed has one
    obtain ⟨x, more, rfl⟩ := h.exists_cons
    rw [stringUnits, hn]
    dsimp only
    rw [ih]
    rfl

theorem stringBody_eq_ok {s rest : List Char} {points : List Nat} :
    stringBody s = .ok (points, rest) ↔ SpellsString s points rest := by
  unfold stringBody
  rw [Outcome.map_eq_ok]
  constructor
  · rintro ⟨⟨ns, last⟩, hns, h⟩
    cases h
    exact ⟨ns, spellsUnits_of_stringUnits hns, rfl⟩
  · rintro ⟨ns, hns, rfl⟩
    exact ⟨(ns, rest), stringUnits_of_spellsUnits hns _, rfl⟩

theorem malformed_of_stringUnits {opening s : List Char} {e : ReadError}
    (h : stringUnits opening s = .error e) : ∃ fault place, e = .malformed fault place := by
  fun_induction stringUnits opening s with
  | case2 => cases h
  | case1 | case3 | case4 | case6 | case7 | case9 =>
    cases h
    exact ⟨_, _, rfl⟩
  | case5 _ _ _ _ _ _ _ _ ih | case8 _ _ _ _ _ _ ih | case10 _ _ _ _ _ _ _ _ ih =>
    exact ih (Outcome.map_eq_error.1 h)

/-- What is wrong with a string is wrong with the text. -/
theorem malformed_of_stringBody {s : List Char} {e : ReadError} (h : stringBody s = .error e) :
    ∃ fault place, e = .malformed fault place :=
  malformed_of_stringUnits (Outcome.map_eq_error.1 h)

/-! ### Words and numbers -/

/-- A word or a number may begin with the character: it is no space and no mark, opens nothing and
closes nothing. -/
def IsPlainStart (c : Char) : Prop :=
  isSpace c = false ∧ c ∉ ['"', '[', '{', ']', '}', '\uFEFF']

instance (c : Char) : Decidable (IsPlainStart c) := inferInstanceAs (Decidable (_ ∧ _))

/-- A word begins in another way than a number. -/
theorem exists_cons_of_mem_words {word : List Char} {v : Json} (h : (word, v) ∈ words) :
    ∃ c d more, word = c :: d :: more ∧ IsPlainStart c ∧ c.isDigit = false ∧
      (c = '-' → d.isDigit = false) := by
  simp only [words, List.mem_cons, Prod.mk.injEq, List.not_mem_nil, or_false] at h
  rcases h with ⟨rfl, -⟩ | ⟨rfl, -⟩ | ⟨rfl, -⟩ | ⟨rfl, -⟩ | ⟨rfl, -⟩ | ⟨rfl, -⟩
  all_goals exact ⟨_, _, _, rfl, by decide, by decide, by decide⟩

theorem isPlainStart_of_isDigit {c : Char} (h : c.isDigit = true) : IsPlainStart c := by
  have hothers : ∀ d ∈ [' ', '\t', '\n', '\r', '"', '[', '{', ']', '}', '\uFEFF'],
      d.isDigit = false := by
    simp [Char.isDigit]
  refine ⟨?_, ?_⟩
  · rw [Bool.eq_false_iff]
    intro hspace
    have hmem : c ∈ [' ', '\t', '\n', '\r', '"', '[', '{', ']', '}', '\uFEFF'] := by
      simp only [isSpace, Bool.or_eq_true, beq_iff_eq] at hspace
      rcases hspace with ((rfl | rfl) | rfl) | rfl <;> decide
    rw [hothers c hmem] at h
    cases h
  · intro hmem
    rw [hothers c (List.mem_append_right [' ', '\t', '\n', '\r'] hmem)] at h
    cases h

/-- A number begins with a digit, perhaps after a sign. -/
theorem IsNumber.exists_cons {word : List Char} {n : NumberText} (h : IsNumber word n) :
    ∃ c more, c.isDigit = true ∧ (word = c :: more ∨ word = '-' :: c :: more) := by
  cases h with
  | @of negative _ _ _ _ _ hwhole =>
    obtain ⟨c, more, rfl, hc⟩ := hwhole.head
    cases negative with
    | false => exact ⟨c, _, hc, .inl rfl⟩
    | true => exact ⟨c, _, hc, .inr rfl⟩

theorem exists_isPlainStart_of_isNumber {word : List Char} {n : NumberText}
    (h : IsNumber word n) : ∃ c more, word = c :: more ∧ IsPlainStart c := by
  obtain ⟨c, more, hc, rfl | rfl⟩ := h.exists_cons
  · exact ⟨c, more, rfl, isPlainStart_of_isDigit hc⟩
  · exact ⟨'-', _, rfl, by decide⟩

theorem word?_append {word : List Char} {v : Json} (h : (word, v) ∈ words) (rest : List Char) :
    word? (word ++ rest) = some (v, rest) := by
  simp only [words, List.mem_cons, Prod.mk.injEq, List.not_mem_nil, or_false] at h
  rcases h with ⟨rfl, rfl⟩ | ⟨rfl, rfl⟩ | ⟨rfl, rfl⟩ | ⟨rfl, rfl⟩ | ⟨rfl, rfl⟩ | ⟨rfl, rfl⟩
  all_goals rfl

theorem mem_words_of_word? {s rest : List Char} {v : Json} (h : word? s = some (v, rest)) :
    ∃ word, (word, v) ∈ words ∧ s = word ++ rest := by
  obtain ⟨⟨word, u⟩, hmem, hdrop⟩ := List.exists_of_findSome?_eq_some h
  obtain ⟨more, hmore, hr⟩ := Option.map_eq_some_iff.1 hdrop
  cases hr
  exact ⟨word, hmem, Text.dropLead?_eq_some.1 hmore⟩

theorem word?_of_isNumber {word : List Char} {n : NumberText} (h : IsNumber word n)
    (rest : List Char) : word? (word ++ rest) = none := by
  rw [Option.eq_none_iff_forall_ne_some]
  rintro ⟨v, after⟩ hword
  obtain ⟨other, hother, heq⟩ := mem_words_of_word? hword
  -- a word and a number may both begin with a sign, and then differ in the next character
  obtain ⟨c, d, more, rfl, -, hc, hd⟩ := exists_cons_of_mem_words hother
  obtain ⟨c', more', hc', rfl | rfl⟩ := h.exists_cons
  · obtain ⟨rfl, -⟩ := List.cons.inj heq
    rw [hc] at hc'
    cases hc'
  · obtain ⟨hsign, heq⟩ := List.cons.inj heq
    obtain ⟨rfl, -⟩ := List.cons.inj heq
    rw [hd hsign.symm] at hc'
    cases hc'

theorem numberValue_ne_nestedTooDeep {n : NumberText} {container : Container} :
    n.value ≠ .error (.nestedTooDeep container) := by
  unfold NumberText.value
  intro h
  split at h
  · split at h <;> cases h
  · cases h

/-! ### What is spelled is read -/

/-- A value begins neither with space nor with a closing bracket. -/
theorem Spelling.head {levels : Nat} {s rest : List Char} {part : Part}
    (h : Spelling levels s part rest) :
    ∃ c more, s = c :: more ∧ isSpace c = false ∧ c ∉ [']', '}', '\uFEFF'] := by
  have hplain : ∀ c, IsPlainStart c → isSpace c = false ∧ c ∉ [']', '}', '\uFEFF'] := by
    rintro c ⟨hspace, hmem⟩
    exact ⟨hspace, fun h => hmem (List.mem_append_right ['"', '[', '{'] h)⟩
  induction h with
  | string | emptyArray | array | emptyObject | object | lastMember | member =>
    exact ⟨_, _, rfl, by decide, by decide⟩
  | word h =>
    obtain ⟨c, d, more, rfl, hc, -⟩ := exists_cons_of_mem_words h
    exact ⟨c, _, rfl, hplain c hc⟩
  | number h =>
    obtain ⟨c, more, rfl, hc⟩ := exists_isPlainStart_of_isNumber h
    exact ⟨c, _, rfl, hplain c hc⟩
  | lastItem _ _ ih => exact ih
  | item _ _ _ _ ih => exact ih

theorem Spelling.not_mem_of_cons {levels : Nat} {c : Char} {more rest : List Char} {part : Part}
    (h : Spelling levels (c :: more) part rest) : c ∉ [']', '}', '\uFEFF'] := by
  obtain ⟨d, _, heq, -, hd⟩ := h.head
  cases heq
  exact hd

theorem not_isPlainStart_of_mem {c : Char} {body : List Char}
    (hc : c ∈ ['"', '[', '{', ']', '}', '\uFEFF']) :
    ¬ ∃ d more, c :: body = d :: more ∧ IsPlainStart d := by
  rintro ⟨d, more, heq, hd⟩
  cases heq
  exact hd.2 hc

section
variable {levels : Nat} {s rest : List Char} {v : Json}
  (hs : ∃ c more, s = c :: more ∧ IsPlainStart c)
include hs

theorem Reads.word (h : word? s = some (v, rest)) : Reads levels s v rest := by
  unfold Reads
  rw [value.eq_def]
  split
  · exact absurd hs (not_isPlainStart_of_mem (by decide))
  · exact absurd hs (not_isPlainStart_of_mem (by decide))
  · exact absurd hs (not_isPlainStart_of_mem (by decide))
  · split
    · next hword =>
      rw [h] at hword
      cases hword
      exact ⟨_, rfl, rfl⟩
    · next hword =>
      rw [h] at hword
      cases hword

theorem Reads.number {n : NumberText} (hword : word? s = none)
    (h : number? s = some (n, rest)) (hv : n.value = .ok v) : Reads levels s v rest := by
  unfold Reads
  rw [value.eq_def]
  split
  · exact absurd hs (not_isPlainStart_of_mem (by decide))
  · exact absurd hs (not_isPlainStart_of_mem (by decide))
  · exact absurd hs (not_isPlainStart_of_mem (by decide))
  · split
    · next hword' =>
      rw [hword] at hword'
      cases hword'
    · split
      · next hnumber =>
        rw [h] at hnumber
        cases hnumber
      · next hnumber =>
        rw [h] at hnumber
        cases hnumber
        rw [hv]
        exact ⟨_, rfl, rfl⟩

end

/-- What the reader makes of a part.  A value is read if what comes after it ends it; items and
members end with a bracket. -/
def Part.IsRead (levels : Nat) (s rest : List Char) : Part → Prop
  | .value v => Ends rest → Reads levels s v rest
  | .items vs => ReadsItems levels s vs rest
  | .members ms => ReadsMembers levels s ms rest

theorem Spaces.skipSpace_of_spelling {levels : Nat} {s next rest : List Char} {part : Part}
    (h : Spaces s next) (hnext : Spelling levels next part rest) : skipSpace s = next := by
  obtain ⟨c, more, rfl, hc, -⟩ := hnext.head
  exact h.skipSpace_cons hc

theorem Spelling.isRead {levels : Nat} {s rest : List Char} {part : Part}
    (h : Spelling levels s part rest) : part.IsRead levels s rest := by
  induction h with
  | string h => exact fun _ => .string (stringBody_eq_ok.2 h)
  | @word _ word rest v h =>
    intro _
    have hword := word?_append h rest
    obtain ⟨c, d, more, rfl, hc, -⟩ := exists_cons_of_mem_words h
    exact .word ⟨c, _, rfl, hc⟩ hword
  | @number _ word rest n v h hv =>
    intro hends
    have hword := word?_of_isNumber h rest
    have hnumber := number?_of_isNumber h hends
    obtain ⟨c, more, rfl, hc⟩ := exists_isPlainStart_of_isNumber h
    exact .number ⟨c, _, rfl, hc⟩ hword hnumber hv
  | emptyArray h => exact fun _ => .emptyArray (h.skipSpace_cons (by decide))
  | emptyObject h => exact fun _ => .emptyObject (h.skipSpace_cons (by decide))
  | array h hvs ih =>
    intro _
    -- the reader skips the same space, and does not take the array for an empty one
    rw [← h.skipSpace_of_spelling hvs] at ih
    refine .array ?_ ih
    intro r hr
    rw [h.skipSpace_of_spelling hvs] at hr
    subst hr
    exact hvs.not_mem_of_cons (by decide)
  | object h hms ih =>
    intro _
    rw [← h.skipSpace_of_spelling hms] at ih
    refine .object ?_ ih
    intro r hr
    rw [h.skipSpace_of_spelling hms] at hr
    subst hr
    exact hms.not_mem_of_cons (by decide)
  | lastItem _ h ih =>
    exact .last (ih (h.ends (ends_cons (by decide) _))) (h.skipSpace_cons (by decide))
  | item _ h hnext hvs ih ihs =>
    rw [← hnext.skipSpace_of_spelling hvs] at ihs
    exact .more (ih (h.ends (ends_cons (by decide) _))) (h.skipSpace_cons (by decide)) ihs
  | lastMember hname hcolon hafter hv h ih =>
    rw [← hafter.skipSpace_of_spelling hv] at ih
    exact .last (stringBody_eq_ok.2 hname) (hcolon.skipSpace_cons (by decide))
      (ih (h.ends (ends_cons (by decide) _))) (h.skipSpace_cons (by decide))
  | member hname hcolon hafter hv h hnext hms ih ihs =>
    rw [← hafter.skipSpace_of_spelling hv] at ih
    rw [← hnext.skipSpace_of_spelling hms] at ihs
    exact .more (stringBody_eq_ok.2 hname) (hcolon.skipSpace_cons (by decide))
      (ih (h.ends (ends_cons (by decide) _))) (h.skipSpace_cons (by decide)) ihs

theorem readWithin_of_isJson {levels : Nat} {text : List Char} {v : Json}
    (h : IsJson levels text v) : readWithin levels text = .ok v := by
  obtain ⟨s, rest, hs, hv, hrest⟩ := h
  -- nothing but space comes after the value, which ends it
  have hnone : skipSpace rest = [] := by
    apply hrest.skipSpace_eq
    intro c more heq
    cases heq
  have hends : Ends rest := by
    apply hrest.ends
    intro c more heq
    cases heq
  have hreads := hv.isRead hends
  rw [← hs.skipSpace_of_spelling hv] at hreads
  refine readWithin_of_reads ?_ hreads hnone
  rintro r rfl
  have hmark : skipSpace ('\uFEFF' :: r) = '\uFEFF' :: r := rfl
  rw [hs.skipSpace_of_spelling hv] at hmark
  subst hmark
  exact hv.not_mem_of_cons (by decide)

/-! ### What is read is spelled -/

/-- What the grammar leads to at a place. -/
inductive Expected where
  | value
  | items
  | members

/-- Where a part is expected at the start of `s` and `levels` of brackets are left, the grammar
leads to a value at `place`, where `left` of them are: what comes before it is spelled. -/
inductive Leads : Nat → List Char → Expected → Nat → List Char → Prop
  | here {levels : Nat} {place : List Char} : Leads levels place .value levels place
  | array {levels left : Nat} {body s place : List Char} (h : Spaces body s)
      (hs : Leads levels s .items left place) : Leads (levels + 1) ('[' :: body) .value left place
  | object {levels left : Nat} {body s place : List Char} (h : Spaces body s)
      (hs : Leads levels s .members left place) : Leads (levels + 1) ('{' :: body) .value left place
  | first {levels left : Nat} {s place : List Char} (h : Leads levels s .value left place) :
    Leads levels s .items left place
  | item {levels left : Nat} {s mid after next place : List Char} {v : Json}
      (hv : Spelling levels s (.value v) mid) (h : Spaces mid (',' :: after))
      (hnext : Spaces after next) (hs : Leads levels next .items left place) :
    Leads levels s .items left place
  | named {levels left : Nat} {body colon after s place : List Char} {points : List Nat}
      (hname : SpellsString body points colon) (hcolon : Spaces colon (':' :: after))
      (hafter : Spaces after s) (hs : Leads levels s .value left place) :
    Leads levels ('"' :: body) .members left place
  | member {levels left : Nat} {body colon after s mid more next place : List Char}
      {points : List Nat} {v : Json} (hname : SpellsString body points colon)
      (hcolon : Spaces colon (':' :: after)) (hafter : Spaces after s)
      (hv : Spelling levels s (.value v) mid) (h : Spaces mid (',' :: more))
      (hnext : Spaces more next) (hs : Leads levels next .members left place) :
    Leads levels ('"' :: body) .members left place

/-- The bracket that opens an array or an object. -/
def Container.opening : Container → Char
  | .array => '['
  | .object => '{'

/-- Where a part is expected, the grammar leads to an integer of so many digits, which are too
many. -/
def ComesToLong (levels : Nat) (s : List Char) (expected : Expected) (digits : Nat) : Prop :=
  maxIntegerDigits < digits ∧
    ∃ left place, Leads levels s expected left place ∧ StartsInteger place digits

/-- Where a part is expected, the grammar leads to an opening bracket for which no level is left. -/
def ComesTooDeep (levels : Nat) (s : List Char) (expected : Expected) (container : Container) :
    Prop :=
  ∃ body, Leads levels s expected 0 (container.opening :: body)

section
variable {α : Type} {levels levels' : Nat}

/-- The outcome of reading a part is accounted for: what was read is spelled, and an integer that is
too long, or a bracket that is too deep, is one that the grammar leads to. -/
def Accounts (levels : Nat) (s : List Char) (expected : Expected) (part : α → Part) :
    Except ReadError (α × Shorter s) → Prop
  | .ok (a, r) => Spelling levels s (part a) r.val
  | .error (.integerTooLong digits) => ComesToLong levels s expected digits
  | .error (.nestedTooDeep container) => ComesTooDeep levels s expected container
  | .error (.malformed _ _) => True

/-- A failure to read a part is one to read what the part belongs to. -/
theorem Accounts.error {β : Type} {s t : List Char} {expected expected' : Expected}
    {part : α → Part} {part' : β → Part} {e : ReadError}
    (h : Accounts levels s expected part (.error e))
    (hleads : ∀ left place, Leads levels s expected left place →
      Leads levels' t expected' left place) :
    Accounts levels' t expected' part' (.error e) := by
  cases e with
  | malformed => trivial
  | integerTooLong =>
    obtain ⟨hlong, left, place, hplace, hinteger⟩ := h
    exact ⟨hlong, left, place, hleads left place hplace, hinteger⟩
  | nestedTooDeep =>
    obtain ⟨body, hbody⟩ := h
    exact ⟨body, hleads 0 _ hbody⟩

/-- What is wrong with a string is accounted for. -/
theorem accounts_stringBody {body s : List Char} {expected : Expected} {part : α → Part}
    {e : ReadError} (h : stringBody body = .error e) :
    Accounts levels s expected part (.error e) := by
  obtain ⟨fault, place, rfl⟩ := malformed_of_stringBody h
  trivial

/-- What is wrong with a number is accounted for: it is its integer, if that is too long. -/
theorem accounts_numberValue {s rest : List Char} {part : α → Part} {n : NumberText} {e : ReadError}
    (h : number? s = some (n, rest)) (he : n.value = .error e) :
    Accounts levels s .value part (.error e) := by
  cases e with
  | malformed => trivial
  | integerTooLong =>
    obtain ⟨hlong, hinteger⟩ := startsInteger_of_number? h he
    exact ⟨hlong, _, _, .here, hinteger⟩
  | nestedTooDeep => exact absurd he numberValue_ne_nestedTooDeep

theorem accounts_value (s : List Char)
    (hitems : ∀ n, ∀ t : List Char, t.length < s.length →
      Accounts n t .items Part.items (items n t))
    (hmembers : ∀ n, ∀ t : List Char, t.length < s.length →
      Accounts n t .members Part.members (members n t)) :
    Accounts levels s .value Part.value (value levels s) := by
  rw [value.eq_def]
  split
  · next body =>
    split
    · next he => exact accounts_stringBody he
    · next hbody => exact .string (stringBody_eq_ok.1 hbody)
  · next body =>
    cases levels with
    | zero => exact ⟨body, .here⟩
    | succ levels =>
      dsimp only
      split
      · next hclose => exact .emptyArray (hclose ▸ spaces_skipSpace body)
      · next hopen =>
        -- what is inside of a bracket is shorter, so all is known of reading it
        have hinner := hitems levels (skipSpace body)
          (Nat.lt_succ_of_le (length_skipSpace_le body))
        split
        · next e he =>
          rw [he] at hinner
          exact hinner.error fun _ _ => .array (spaces_skipSpace body)
        · next he =>
          rw [he] at hinner
          exact .array (spaces_skipSpace body) hinner
  · next body =>
    cases levels with
    | zero => exact ⟨body, .here⟩
    | succ levels =>
      dsimp only
      split
      · next hclose => exact .emptyObject (hclose ▸ spaces_skipSpace body)
      · next hopen =>
        have hinner := hmembers levels (skipSpace body)
          (Nat.lt_succ_of_le (length_skipSpace_le body))
        split
        · next e he =>
          rw [he] at hinner
          exact hinner.error fun _ _ => .object (spaces_skipSpace body)
        · next he =>
          rw [he] at hinner
          exact .object (spaces_skipSpace body) hinner
  · split
    · next hword =>
      obtain ⟨word, hmem, rfl⟩ := mem_words_of_word? hword
      exact .word hmem
    · split
      · trivial
      · next hnumber =>
        split
        · next he => exact accounts_numberValue hnumber he
        · next hv =>
          obtain ⟨word, hword, rfl⟩ := isNumber_of_number? hnumber
          exact .number hword hv

theorem accounts_items (s : List Char)
    (hvalue : Accounts levels s .value Part.value (value levels s))
    (hitems : ∀ t, t.length < s.length → Accounts levels t .items Part.items (items levels t)) :
    Accounts levels s .items Part.items (items levels s) := by
  rw [items]
  split
  · next e he =>
    rw [he] at hvalue
    exact hvalue.error fun _ _ => .first
  · next v rest hr he =>
    rw [he] at hvalue
    dsimp only
    split
    · next hclose => exact .lastItem hvalue (hclose ▸ spaces_skipSpace rest)
    · next more hcomma =>
      have hrest := hitems (skipSpace more) ((length_skipSpace_lt hcomma).trans hr)
      split
      · next e he' =>
        rw [he'] at hrest
        exact hrest.error fun _ _ =>
          .item hvalue (hcomma ▸ spaces_skipSpace rest) (spaces_skipSpace more)
      · next he' =>
        rw [he'] at hrest
        exact .item hvalue (hcomma ▸ spaces_skipSpace rest) (spaces_skipSpace more) hrest
    · trivial

theorem accounts_members (s : List Char)
    (hvalue : ∀ t, t.length < s.length → Accounts levels t .value Part.value (value levels t))
    (hmembers : ∀ t, t.length < s.length →
      Accounts levels t .members Part.members (members levels t)) :
    Accounts levels s .members Part.members (members levels s) := by
  rw [members.eq_def]
  split
  · next body =>
    split
    · next he => exact accounts_stringBody he
    · next points rest hbody =>
      have hname := stringBody_eq_ok.1 hbody
      have hlength := length_stringBody_lt hbody
      dsimp only
      split
      · next after hcolon =>
        have hcolon' : Spaces rest (':' :: after) := hcolon ▸ spaces_skipSpace rest
        have hafter : (skipSpace after).length < body.length :=
          (length_skipSpace_lt hcolon).trans hlength
        have hv := hvalue (skipSpace after) (Nat.lt_succ_of_lt hafter)
        split
        · next e he =>
          rw [he] at hv
          exact hv.error fun _ _ => .named hname hcolon' (spaces_skipSpace after)
        · next v last hr he =>
          rw [he] at hv
          split
          · next hclose =>
            exact .lastMember hname hcolon' (spaces_skipSpace after) hv
              (hclose ▸ spaces_skipSpace last)
          · next more hcomma =>
            have hcomma' : Spaces last (',' :: more) := hcomma ▸ spaces_skipSpace last
            have hnext : (skipSpace more).length < (skipSpace after).length :=
              (length_skipSpace_lt hcomma).trans hr
            have hrest := hmembers (skipSpace more) (hnext.trans (Nat.lt_succ_of_lt hafter))
            split
            · next e he' =>
              rw [he'] at hrest
              exact hrest.error fun _ _ =>
                .member hname hcolon' (spaces_skipSpace after) hv hcomma' (spaces_skipSpace more)
            · next he' =>
              rw [he'] at hrest
              exact .member hname hcolon' (spaces_skipSpace after) hv hcomma'
                (spaces_skipSpace more) hrest
          · trivial
      · trivial
  · trivial

/-- Every outcome of reading a part is accounted for, whatever levels are left: values go by their
length, and items begin with a value of the same length. -/
theorem accounts (levels : Nat) (s : List Char) :
    Accounts levels s .value Part.value (value levels s) ∧
      Accounts levels s .items Part.items (items levels s) ∧
        Accounts levels s .members Part.members (members levels s) := by
  induction h : s.length using Nat.strongRecOn generalizing levels s with
  | ind length ih =>
    subst h
    have hvalue : Accounts levels s .value Part.value (value levels s) :=
      accounts_value s (fun n t ht => (ih _ ht n t rfl).2.1) fun n t ht => (ih _ ht n t rfl).2.2
    refine ⟨hvalue, ?_, ?_⟩
    · exact accounts_items s hvalue fun t ht => (ih _ ht levels t rfl).2.1
    · exact accounts_members s (fun t ht => (ih _ ht levels t rfl).1)
        fun t ht => (ih _ ht levels t rfl).2.2

/-! ### Texts -/

variable {text : List Char}

/-- The value that a text is read as is the one that stands after its space. -/
theorem isJson_of_readWithin {v : Json} (h : readWithin levels text = .ok v) :
    IsJson levels text v := by
  have hvalue := (accounts levels (skipSpace text)).1
  unfold readWithin at h
  split at h
  · cases h
  · split at h
    · cases h
    · next hv =>
      rw [hv] at hvalue
      split at h
      · next rest _ hnone =>
        cases h
        exact ⟨_, _, spaces_skipSpace text, hvalue, hnone ▸ spaces_skipSpace _⟩
      · cases h

/-- The reader accepts the texts of the grammar. -/
theorem readWithin_eq_ok {v : Json} : readWithin levels text = .ok v ↔ IsJson levels text v :=
  ⟨isJson_of_readWithin, readWithin_of_isJson⟩

/-- A text is JSON for one value at most. -/
theorem IsJson.unique {v v' : Json} (h : IsJson levels text v) (h' : IsJson levels text v') :
    v = v' :=
  Except.ok.inj ((readWithin_eq_ok.2 h).symm.trans (readWithin_eq_ok.2 h'))

/-- A text that is neither read nor malformed is not because of its value. -/
theorem value_eq_error_of_readWithin {e : ReadError} (h : readWithin levels text = .error e) :
    (∃ fault place, e = .malformed fault place) ∨ value levels (skipSpace text) = .error e := by
  unfold readWithin at h
  split at h
  · cases h
    exact .inl ⟨_, _, rfl⟩
  · split at h
    · next he =>
      cases h
      exact .inr he
    · split at h
      · cases h
      · cases h
        exact .inl ⟨_, _, rfl⟩

theorem comesToLong_of_readWithin {digits : Nat}
    (h : readWithin levels text = .error (.integerTooLong digits)) :
    ∃ s, Spaces text s ∧ ComesToLong levels s .value digits := by
  rcases value_eq_error_of_readWithin h with ⟨_, _, he⟩ | he
  · cases he
  · have hvalue := (accounts levels (skipSpace text)).1
    rw [he] at hvalue
    exact ⟨_, spaces_skipSpace text, hvalue⟩

theorem comesTooDeep_of_readWithin {container : Container}
    (h : readWithin levels text = .error (.nestedTooDeep container)) :
    ∃ s, Spaces text s ∧ ComesTooDeep levels s .value container := by
  rcases value_eq_error_of_readWithin h with ⟨_, _, he⟩ | he
  · cases he
  · have hvalue := (accounts levels (skipSpace text)).1
    rw [he] at hvalue
    exact ⟨_, spaces_skipSpace text, hvalue⟩

end

/-! ### Objects -/

/-- The text is JSON for an object whose members come in this order, with brackets nested at most
so many levels deep. -/
inductive IsObject (text : List Char) : Nat → List (Name × Json) → Prop
  | empty {levels : Nat} {body rest : List Char} (h : Spaces text ('{' :: body))
      (hbody : Spaces body ('}' :: rest)) (hrest : Spaces rest []) : IsObject text (levels + 1) []
  | members {levels : Nat} {body s rest : List Char} {ms : List (Name × Json)}
      (h : Spaces text ('{' :: body)) (hbody : Spaces body s)
      (hms : Spelling levels s (.members ms) rest) (hrest : Spaces rest []) :
    IsObject text (levels + 1) ms

/-- The last one of several members of a name. -/
def last? (name : String) (ms : List (Name × Json)) : Option Json :=
  ms.reverse.lookup (.text name)

theorem IsObject.isJson {levels : Nat} {text : List Char} {ms : List (Name × Json)}
    (h : IsObject text levels ms) : IsJson levels text (ofMembers ms) := by
  cases h with
  | empty h hbody hrest => exact ⟨_, _, h, .emptyObject hbody, hrest⟩
  | members h hbody hms hrest => exact ⟨_, _, h, .object hbody hms, hrest⟩

theorem ofCodePoints_ne_object (points : List Nat) (ms : List (Name × Json)) :
    ofCodePoints points ≠ .object ms := by
  unfold ofCodePoints
  intro h
  split at h <;> cases h

theorem not_mem_words_object (word : List Char) (ms : List (Name × Json)) :
    (word, Json.object ms) ∉ words := by
  simp [words]

theorem numberValue_ne_object (n : NumberText) (ms : List (Name × Json)) :
    n.value ≠ .ok (.object ms) := by
  unfold NumberText.value
  intro h
  split at h
  · split at h <;> cases h
  · cases h

/-- Only the text of an object is JSON for one. -/
theorem exists_isObject_of_isJson {levels : Nat} {text : List Char} {ms : List (Name × Json)}
    (h : IsJson levels text (.object ms)) :
    ∃ ms', IsObject text levels ms' ∧ ofMembers ms' = .object ms := by
  obtain ⟨s, rest, hs, hv, hrest⟩ := h
  generalize hpart : Part.value (.object ms) = part at hv
  cases hv with
  | string => exact absurd (Part.value.inj hpart).symm (ofCodePoints_ne_object _ ms)
  | word h =>
    obtain rfl := Part.value.inj hpart
    exact absurd h (not_mem_words_object _ ms)
  | number _ hv =>
    obtain rfl := Part.value.inj hpart
    exact absurd hv (numberValue_ne_object _ ms)
  | emptyObject h =>
    cases hpart
    exact ⟨[], .empty hs h hrest, rfl⟩
  | object h hms => exact ⟨_, .members hs h hms hrest, (Part.value.inj hpart).symm⟩
  | emptyArray | array | lastItem | item | lastMember | member => cases hpart

theorem lookup_cons_eq_ite (other name : Name) (v : Json) (ms : List (Name × Json)) :
    ((name, v) :: ms).lookup other = if other = name then some v else ms.lookup other := by
  rw [List.lookup_cons]
  by_cases h : other = name
  · rw [if_pos h, beq_iff_eq.2 h]
  · rw [if_neg h, beq_eq_false_iff_ne.2 h]

theorem lookup_setMember (other name : Name) (v : Json) (ms : List (Name × Json)) :
    (setMember name v ms).lookup other = if other = name then some v else ms.lookup other := by
  induction ms with
  | nil => exact lookup_cons_eq_ite other name v []
  | cons m ms ih =>
    obtain ⟨n, w⟩ := m
    rw [setMember, lookup_cons_eq_ite other n w ms]
    by_cases hn : n = name
    · -- the old member is the only one that changes
      subst hn
      rw [if_pos rfl, lookup_cons_eq_ite]
      by_cases h : other = n
      · rw [if_pos h, if_pos h]
      · rw [if_neg h, if_neg h, if_neg h]
    · rw [if_neg hn, lookup_cons_eq_ite, ih]
      by_cases h : other = n
      · rw [if_pos h, if_neg (h ▸ hn), if_pos h]
      · rw [if_neg h, if_neg h]

/-- The last member of a name is the one that the object has. -/
theorem member?_ofMembers (name : String) (ms : List (Name × Json)) :
    (ofMembers ms).member? name = last? name ms := by
  unfold ofMembers member? last?
  induction ms using List.reverseRecOn with
  | nil => rfl
  | append_singleton ms m ih =>
    obtain ⟨n, v⟩ := m
    rw [List.foldl_append, List.reverse_append]
    show (setMember n v _).lookup _ = ((n, v) :: ms.reverse).lookup _
    rw [lookup_setMember, lookup_cons_eq_ite]
    by_cases h : Name.text name = n
    · rw [if_pos h, if_pos h]
    · rw [if_neg h, if_neg h]
      exact ih

end ApiScribe.Json
