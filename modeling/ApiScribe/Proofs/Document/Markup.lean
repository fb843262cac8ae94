import ApiScribe.Document.Scrape

/-!
# Well-formed markup

Nested elements whose texts have no brackets and no references, written with a start tag and an end
tag each.  Such markup is read as the elements that it spells:

* `scan_chars` — a pass over the text gives the tags and texts in order, whatever follows;
* `foldl_step_tokens` — the tags and texts build the elements in whatever element is open;
* `parse_charsOf` — so the text is parsed as the elements.
-/

namespace ApiScribe.Document

/-! ### Markup -/

/-- The name of an element that has content, and whose content is neither raw nor kept apart. -/
structure TagName where
  head : Char
  tail : List Char
  head_isAlpha : head.isAlpha := by decide
  tail_isAlphanum : tail.all Char.isAlphanum := by decide
  lower_eq : Text.lower (head :: tail) = head :: tail := by decide
  not_raw : rawElements.contains (head :: tail) = false := by decide
  not_void : voidElements.contains (String.ofList (head :: tail)) = false := by decide
  not_preformatted : preformattedElements.contains (String.ofList (head :: tail)) = false := by
    decide
  not_secluded : secludedElements.contains (String.ofList (head :: tail)) = false := by decide

namespace TagName

/-- The characters of the name. -/
def chars (n : TagName) : List Char := n.head :: n.tail

/-- The name of the element. -/
def name (n : TagName) : String := String.ofList n.chars

end TagName

/-- A text without brackets and references that is more than blanks. -/
structure PlainText (text : List Char) : Prop where
  noBracket : '<' ∉ text
  noReference : '&' ∉ text
  visible : ∃ c ∈ text, Builder.isAsciiBlank c = false

theorem plainText_iff {text : List Char} : PlainText text ↔
    !text.contains '<' ∧ !text.contains '&' ∧ !text.all Builder.isAsciiBlank := by
  constructor
  · rintro ⟨hbracket, hreference, hvisible⟩
    simpa [hbracket, hreference] using hvisible
  · intro h
    simp only [Bool.not_eq_true', List.contains_eq_mem, decide_eq_false_iff_not, List.all_eq_false,
      Bool.not_eq_true] at h
    exact ⟨h.1, h.2.1, h.2.2⟩

instance (text : List Char) : Decidable (PlainText text) := decidable_of_iff' _ plainText_iff

/-- Nested elements; an element holds a text or elements. -/
inductive Markup where
  | leaf (name : TagName) (text : List Char)
  | branch (name : TagName) (children : List Markup)

namespace Markup

/-- The text of a start tag. -/
def startTag (n : TagName) : List Char := '<' :: (n.chars ++ ['>'])

/-- The text of an end tag. -/
def endTag (n : TagName) : List Char := '<' :: '/' :: (n.chars ++ ['>'])

mutual

/-- The text of an element. -/
def chars : Markup → List Char
  | leaf n text => startTag n ++ text ++ endTag n
  | branch n children => startTag n ++ charsOf children ++ endTag n

/-- The text of elements in sequence. -/
def charsOf : List Markup → List Char
  | [] => []
  | m :: ms => m.chars ++ charsOf ms

end

mutual

/-- The tokens of an element. -/
def tokens : Markup → List Token
  | leaf n text => [.opening n.chars, .data text, .ending n.chars]
  | branch n children => .opening n.chars :: (tokensOf children ++ [.ending n.chars])

/-- The tokens of elements in sequence. -/
def tokensOf : List Markup → List Token
  | [] => []
  | m :: ms => m.tokens ++ tokensOf ms

end

mutual

/-- The element that markup spells. -/
def node : Markup → Node
  | leaf n text => .element n.name [.text .page (String.ofList text)]
  | branch n children => .element n.name (nodesOf children)

/-- The elements that markup spells. -/
def nodesOf : List Markup → List Node
  | [] => []
  | m :: ms => m.node :: nodesOf ms

end

mutual

/-- All texts of the markup are plain. -/
def Plain : Markup → Prop
  | leaf _ text => PlainText text
  | branch _ children => PlainAll children

/-- All texts of the elements are plain. -/
def PlainAll : List Markup → Prop
  | [] => True
  | m :: ms => m.Plain ∧ PlainAll ms

end

/-! ### Tags -/

variable {n : TagName} {text rest : List Char} {final : Bool} {fuel : Nat}

theorem isTagNamePart_of_isAlphanum {c : Char} (h : c.isAlphanum) : isTagNamePart c := by
  unfold isTagNamePart
  rw [Bool.not_eq_true', List.contains_eq_mem, decide_eq_false_iff_not]
  intro hm
  simp only [List.mem_cons, List.not_mem_nil, or_false] at hm
  rcases hm with rfl | rfl | rfl | rfl | rfl | rfl | rfl | rfl <;> exact absurd h (by decide)

theorem isEndNamePart_of_isAlphanum {c : Char} (h : c.isAlphanum) : isEndNamePart c := by
  unfold isEndNamePart
  rw [h]
  rfl

theorem isAlphanum_of_mem (n : TagName) : ∀ c ∈ n.chars, c.isAlphanum := by
  intro c hc
  rcases List.mem_cons.1 hc with rfl | hc
  · unfold Char.isAlphanum
    rw [n.head_isAlpha]
    rfl
  · exact List.all_eq_true.1 n.tail_isAlphanum c hc

theorem not_isBlank_of_isAlphanum {c : Char} (h : c.isAlphanum) : Text.isBlank c = false := by
  delta Char.isAlphanum Char.isAlpha Char.isUpper Char.isLower Char.isDigit at h
  simp only [Bool.or_eq_true, Bool.and_eq_true, decide_eq_true_eq, ge_iff_le,
    UInt32.le_iff_toNat_le] at h
  -- blanks are below the digits or above the letters
  have hval : c.toNat = c.val.toNat := rfl
  have h0 : '0'.val.toNat = 48 := rfl
  have h9 : '9'.val.toNat = 57 := rfl
  have hA : 'A'.val.toNat = 65 := rfl
  have hZ : 'Z'.val.toNat = 90 := rfl
  have ha : 'a'.val.toNat = 97 := rfl
  have hz : 'z'.val.toNat = 122 := rfl
  simp only [Text.isBlank, Bool.or_eq_false_iff, Bool.and_eq_false_iff, decide_eq_false_iff_not,
    beq_eq_false_iff_ne]
  omega

/-- What a run of characters takes from a text is the part of them before one that does not
belong. -/
theorem takeWhile_append_cons {p : Char → Bool} {cs : List Char} {c : Char}
    (h : ∀ c ∈ cs, p c) (hc : p c = false) : (cs ++ c :: rest).takeWhile p = cs := by
  rw [List.takeWhile_append_of_pos h, List.takeWhile_cons_of_neg (by simp [hc]), List.append_nil]

theorem dropWhile_append_cons {p : Char → Bool} {cs : List Char} {c : Char}
    (h : ∀ c ∈ cs, p c) (hc : p c = false) : (cs ++ c :: rest).dropWhile p = c :: rest := by
  rw [List.dropWhile_append_of_pos h, List.dropWhile_cons_of_neg (by simp [hc])]

theorem takeAttributes_bracket {before : Char} :
    takeAttributes (fuel + 1) before ('>' :: rest) = ([], '>' :: rest) := by
  unfold takeAttributes
  split
  · rfl
  · rfl

theorem scanStartTag_append (n : TagName) (rest : List Char) :
    scanStartTag (n.chars ++ '>' :: rest) = .complete [.opening n.chars] rest := by
  have hpart : ∀ c ∈ n.chars, isTagNamePart c :=
    fun c hc => isTagNamePart_of_isAlphanum (isAlphanum_of_mem n c hc)
  have hseparators (before : Char) :
      dropSeparators before ('>' :: rest) = (before, '>' :: rest) := rfl
  have hlower : Text.lower n.chars = n.chars := n.lower_eq
  unfold scanStartTag
  simp only [takeWhile_append_cons hpart (c := '>') (by decide),
    dropWhile_append_cons hpart (c := '>') (by decide), hseparators, List.length_cons,
    takeAttributes_bracket, hlower, List.findSome?_nil]

theorem properEndTag?_append (n : TagName) (rest : List Char) :
    properEndTag? (n.chars ++ '>' :: rest) = some (n.chars, rest) := by
  have hpart : ∀ c ∈ n.tail, isEndNamePart c :=
    fun c hc => isEndNamePart_of_isAlphanum (List.all_eq_true.1 n.tail_isAlphanum c hc)
  have hhead : Text.isBlank n.head = false :=
    not_isBlank_of_isAlphanum (isAlphanum_of_mem n _ (List.mem_cons_self ..))
  have hblanks : (n.chars ++ '>' :: rest).dropWhile Text.isBlank = n.chars ++ '>' :: rest :=
    List.dropWhile_cons_of_neg (by simp [hhead])
  unfold properEndTag?
  rw [hblanks]
  simp only [TagName.chars, List.cons_append, if_pos n.head_isAlpha,
    takeWhile_append_cons hpart (c := '>') (by decide),
    dropWhile_append_cons hpart (c := '>') (by decide)]
  rfl

theorem scanEndTag_append (n : TagName) (rest : List Char) :
    scanEndTag (n.chars ++ '>' :: rest) = .complete [.ending n.chars] rest := by
  have hbracket : '>' ∉ n.chars := by
    intro h
    exact absurd (isAlphanum_of_mem n _ h) (by decide)
  have hafter : afterBracket? (n.chars ++ '>' :: rest) = some rest := by
    unfold afterBracket?
    rw [Text.cut?_append_cons hbracket]
    rfl
  have hlower : Text.lower n.chars = n.chars := n.lower_eq
  unfold scanEndTag
  rw [hafter, properEndTag?_append]
  show Extent.complete [.ending (Text.lower n.chars)] rest = _
  rw [hlower]

/-- A name does not start with a sign. -/
theorem head_ne (n : TagName) {c : Char} (hc : c.isAlpha = false) : n.head ≠ c := by
  rintro rfl
  rw [n.head_isAlpha] at hc
  cases hc

theorem scanBracket_append (n : TagName) (rest : List Char) :
    scanBracket (n.chars ++ '>' :: rest) = .complete [.opening n.chars] rest := by
  unfold scanBracket
  split
  · next h => cases h
  · next h => exact absurd (List.cons.inj h).1 (head_ne n rfl)
  · next h => exact absurd (List.cons.inj h).1 (head_ne n rfl)
  · next h => exact absurd (List.cons.inj h).1 (head_ne n rfl)
  · next h =>
    rw [← (List.cons.inj h).1, if_pos n.head_isAlpha, scanStartTag_append]

/-! ### A pass over markup -/

/-- A stop with tokens before those it has. -/
def Stop.prepend (tokens : List Token) (s : Stop) : Stop := { s with tokens := tokens ++ s.tokens }

theorem scan_complete {cs : List Char} {tokens : List Token}
    (h : scanBracket cs = .complete tokens rest) : scan final (fuel + 1) none ('<' :: cs) =
      (scan final fuel (rawAfter tokens) rest).map (Stop.prepend tokens) := by
  conv => lhs; unfold scan
  simp only [h, if_true]
  rfl

theorem scan_startTag (n : TagName) : scan final (fuel + 1) none (startTag n ++ rest) =
    (scan final fuel none rest).map (Stop.prepend [.opening n.chars]) := by
  have hcs : startTag n ++ rest = '<' :: (n.chars ++ '>' :: rest) := by
    simp [startTag]
  have hraw : rawAfter [.opening n.chars] = none := by
    simp only [rawAfter, TagName.chars, n.not_raw]
    rfl
  rw [hcs, scan_complete (scanBracket_append n rest), hraw]

theorem scan_endTag (n : TagName) : scan final (fuel + 1) none (endTag n ++ rest) =
    (scan final fuel none rest).map (Stop.prepend [.ending n.chars]) := by
  have hcs : endTag n ++ rest = '<' :: '/' :: (n.chars ++ '>' :: rest) := by
    simp [endTag]
  have hscan : scanBracket ('/' :: (n.chars ++ '>' :: rest)) =
      .complete [.ending n.chars] rest := scanEndTag_append n rest
  rw [hcs, scan_complete hscan]
  rfl

/-- A plain text is one token when a tag follows. -/
theorem scan_text (h : PlainText text) : scan final (fuel + 1) none (text ++ '<' :: rest) =
    (scan final fuel none ('<' :: rest)).map (Stop.prepend [.data text]) := by
  obtain ⟨hbracket, hreference, hvisible⟩ := h
  -- the run of data ends at the bracket of the tag, and only there
  have hplain : ∀ c ∈ text, (c != '<' && c != '&') = true := by
    intro c hc
    rw [Bool.and_eq_true, bne_iff_ne, bne_iff_ne]
    exact ⟨ne_of_mem_of_not_mem hc hbracket, ne_of_mem_of_not_mem hc hreference⟩
  have htake : (text ++ '<' :: rest).takeWhile (fun c => c != '<' && c != '&') = text :=
    takeWhile_append_cons hplain rfl
  have hdrop : (text ++ '<' :: rest).dropWhile (fun c => c != '<' && c != '&') = '<' :: rest :=
    dropWhile_append_cons hplain rfl
  cases text with
  | nil =>
    obtain ⟨c, hc, -⟩ := hvisible
    cases hc
  | cons c cs =>
    have hc := hplain c (List.mem_cons_self ..)
    rw [Bool.and_eq_true, bne_iff_ne, bne_iff_ne] at hc
    rw [List.cons_append] at htake hdrop ⊢
    conv => lhs; unfold scan
    simp only [if_neg hc.1, if_neg hc.2, htake, hdrop]
    rfl

theorem Stop.map_prepend {tokens tokens' : List Token} (x : Except MarkupFault Stop) :
    (x.map (Stop.prepend tokens')).map (Stop.prepend tokens) =
      x.map (Stop.prepend (tokens ++ tokens')) := by
  cases x with
  | error e => rfl
  | ok s => simp [Except.map, Stop.prepend]

theorem Stop.map_prepend_nil (x : Except MarkupFault Stop) : x.map (Stop.prepend []) = x := by
  cases x with
  | error e => rfl
  | ok s => rfl

mutual

/-- A pass over an element gives its tokens, whatever follows the element. -/
theorem scan_chars {m : Markup} (h : m.Plain) {fuel : Nat} {rest : List Char} :
    scan final (fuel + m.tokens.length) none (m.chars ++ rest) =
      (scan final fuel none rest).map (Stop.prepend m.tokens) := by
  match m, h with
  | leaf n text, h =>
    have htext : PlainText text := h
    -- the text is followed by its own end tag, whatever `rest` is
    have hend : endTag n ++ rest = '<' :: ('/' :: (n.chars ++ ['>']) ++ rest) := rfl
    have hlength : fuel + (leaf n text).tokens.length = fuel + 2 + 1 := rfl
    rw [hlength, chars, List.append_assoc, List.append_assoc, scan_startTag, hend,
      scan_text htext, ← hend, scan_endTag, Stop.map_prepend, Stop.map_prepend]
    rfl
  | branch n children, h =>
    have hchildren : PlainAll children := h
    have hlength : fuel + (branch n children).tokens.length =
        fuel + 1 + (tokensOf children).length + 1 := by
      simp only [tokens, List.length_cons, List.length_append, List.length_nil]
      omega
    rw [hlength, chars, List.append_assoc, List.append_assoc, scan_startTag,
      scan_charsOf hchildren, scan_endTag, Stop.map_prepend, Stop.map_prepend]
    rfl

theorem scan_charsOf {ms : List Markup} (h : PlainAll ms) {fuel : Nat} {rest : List Char} :
    scan final (fuel + (tokensOf ms).length) none (charsOf ms ++ rest) =
      (scan final fuel none rest).map (Stop.prepend (tokensOf ms)) := by
  match ms, h with
  | [], _ => exact (Stop.map_prepend_nil _).symm
  | m :: ms, h =>
    obtain ⟨hm, hms⟩ : m.Plain ∧ PlainAll ms := h
    have hlength : fuel + (tokensOf (m :: ms)).length =
        fuel + (tokensOf ms).length + m.tokens.length := by
      simp only [tokensOf, List.length_append]
      omega
    rw [hlength, charsOf, List.append_assoc, scan_chars hm, scan_charsOf hms, Stop.map_prepend]
    rfl

end

mutual

theorem length_tokens_le (m : Markup) : m.tokens.length ≤ m.chars.length := by
  match m with
  | leaf n text =>
    simp only [tokens, chars, startTag, endTag, List.length_cons, List.length_append,
      List.length_nil]
    omega
  | branch n children =>
    have hchildren := length_tokensOf_le children
    simp only [tokens, chars, startTag, endTag, List.length_cons, List.length_append,
      List.length_nil]
    omega

theorem length_tokensOf_le (ms : List Markup) : (tokensOf ms).length ≤ (charsOf ms).length := by
  match ms with
  | [] => exact Nat.le_refl 0
  | m :: ms =>
    rw [tokensOf, charsOf, List.length_append, List.length_append]
    exact Nat.add_le_add (length_tokens_le m) (length_tokensOf_le ms)

end

theorem scan_nil : scan final fuel none [] = .ok ⟨[], [], none⟩ := by
  cases fuel with
  | zero => rfl
  | succ fuel => rfl

theorem tokenize_charsOf {ms : List Markup} (h : PlainAll ms) :
    tokenize (charsOf ms) = .ok (tokensOf ms) := by
  -- every token takes a character, so there is a pass for each
  have hfuel : (charsOf ms).length + 1 =
      (charsOf ms).length + 1 - (tokensOf ms).length + (tokensOf ms).length := by
    have := length_tokensOf_le ms
    omega
  have hfirst : scan false ((charsOf ms).length + 1) none (charsOf ms) =
      .ok ⟨tokensOf ms, [], none⟩ := by
    rw [hfuel, ← List.append_nil (charsOf ms), scan_charsOf h, scan_nil]
    simp [Except.map, Stop.prepend]
  unfold tokenize
  rw [hfirst]
  simp [scan_nil, dataTokens]

end Markup

/-! ### Building the elements -/

namespace Builder

/-- No text is gathered, no end tag is to be skipped, and no open element keeps its blanks or its
text to itself. -/
structure Ready (b : Builder) : Prop where
  pending : b.pending = []
  skipped : b.skipped = []
  preformatted : ∀ o ∈ b.opened, preformattedElements.contains o.name = false
  page : ∀ o ∈ b.opened, secludedElements.contains o.name = false

/-- Nodes added one after the other. -/
def addAll (b : Builder) (nodes : List Node) : Builder := nodes.foldl add b

variable {b : Builder} {n : TagName} {nodes : List Node} {text : List Char}

theorem ready_start : start.Ready where
  pending := rfl
  skipped := rfl
  preformatted := by simp [start]
  page := by simp [start]

theorem flush_of_pending (h : b.pending = []) : b.flush = b := by
  unfold flush
  rw [h]

theorem openElement_eq (h : b.pending = []) (name : String) :
    b.openElement name = { b with opened := ⟨name, []⟩ :: b.opened } := by
  unfold openElement
  rw [flush_of_pending h]

theorem Ready.openElement (h : b.Ready) (n : TagName) : (b.openElement n.name).Ready := by
  rw [openElement_eq h.pending]
  exact ⟨h.pending, h.skipped, List.forall_mem_cons.2 ⟨n.not_preformatted, h.preformatted⟩,
    List.forall_mem_cons.2 ⟨n.not_secluded, h.page⟩⟩

theorem Ready.add (h : b.Ready) (node : Node) : (b.add node).Ready := by
  obtain ⟨hpending, hskipped, hpre, hpage⟩ := h
  unfold Builder.add
  split
  · exact ⟨hpending, hskipped, hpre, hpage⟩
  · next o more ho =>
    rw [ho, List.forall_mem_cons] at hpre hpage
    exact ⟨hpending, hskipped, List.forall_mem_cons.2 hpre, List.forall_mem_cons.2 hpage⟩

theorem Ready.addAll (h : b.Ready) (nodes : List Node) : (b.addAll nodes).Ready := by
  induction nodes generalizing b with
  | nil => exact h
  | cons node nodes ih => exact ih (h.add node)

/-- The text of an ordinary element is a text of the page, and stays as it is if it is more than
blanks. -/
theorem Ready.flush_data (h : b.Ready) (htext : ∃ c ∈ text, isAsciiBlank c = false) :
    { b with pending := [text] }.flush = b.add (.text .page (String.ofList text)) := by
  obtain ⟨hpending, -, hpre, hpage⟩ := h
  have hnopre : { b with pending := [text] }.isPreformatted = false := by
    simpa [isPreformatted] using hpre
  have hkind : { b with pending := [text] }.textKind = .page := by
    have hfind : b.opened.find? (fun o => secludedElements.contains o.name) = none :=
      List.find?_eq_none.2 fun o ho => by
        simp only [hpage o ho, Bool.false_eq_true, not_false_eq_true]
    simp only [textKind, hfind]
  -- only a run of blanks is collapsed
  have hcollapse : collapse text = text := by
    have hall : text.all isAsciiBlank = false := by
      simpa using htext
    simp [collapse, hall]
  have hb : { b with pending := [] } = b := by
    rw [← hpending]
  unfold flush
  simp only [hkind, settle, hnopre]
  simp [hcollapse, hb]

/-- Nodes become children of the innermost open element. -/
theorem addAll_eq {o : Open} {more : List Open} (ho : b.opened = o :: more) :
    b.addAll nodes =
      { b with opened := { o with children := nodes.reverse ++ o.children } :: more } := by
  induction nodes generalizing b o with
  | nil =>
    rw [List.reverse_nil, List.nil_append, ← ho]
    rfl
  | cons node nodes ih =>
    have hadd : b.add node =
        { b with opened := { o with children := node :: o.children } :: more } := by
      unfold Builder.add
      rw [ho]
    show (b.add node).addAll nodes = _
    rw [ih (o := { o with children := node :: o.children }) (by rw [hadd]), hadd,
      List.reverse_cons, List.append_assoc]
    rfl

/-- Nodes stand outside all elements while none is open. -/
theorem addAll_top (ho : b.opened = []) :
    b.addAll nodes = { b with top := nodes.reverse ++ b.top } := by
  induction nodes generalizing b with
  | nil => rfl
  | cons node nodes ih =>
    have hadd : b.add node = { b with top := node :: b.top } := by
      unfold Builder.add
      rw [ho]
    show (b.add node).addAll nodes = _
    rw [ih (by rw [hadd]; exact ho), hadd, List.reverse_cons, List.append_assoc]
    rfl

/-- Closing an element ends the run of character data in it. -/
theorem closeElement_of_flush {b' : Builder} {name : String} (h : b.flush = b')
    (hpending : b'.pending = []) : b.closeElement name = b'.closeElement name := by
  unfold closeElement
  rw [h, flush_of_pending hpending]

/-- The nodes that are added to an element just opened are its children when it is closed. -/
theorem closeElement_addAll (h : b.Ready) (name : String) (nodes : List Node) :
    ((b.openElement name).addAll nodes).closeElement name = b.add (.element name nodes) := by
  have hopen := openElement_eq h.pending name
  have hall : (b.openElement name).addAll nodes =
      { b with opened := ⟨name, nodes.reverse⟩ :: b.opened } := by
    rw [hopen, addAll_eq rfl, List.append_nil]
  have hflush : { b with opened := ⟨name, nodes.reverse⟩ :: b.opened }.flush =
      { b with opened := ⟨name, nodes.reverse⟩ :: b.opened } := flush_of_pending h.pending
  rw [hall]
  unfold closeElement
  rw [hflush]
  simp [closeThrough, closeInnermost]

end Builder

namespace Markup

open Builder

theorem step_opening (n : TagName) (b : Builder) :
    b.step (.opening n.chars) = b.openElement n.name := by
  have hvoid : voidElements.contains (String.ofList n.chars) = false := n.not_void
  simp only [step, hvoid]
  rfl

theorem step_ending (n : TagName) {b : Builder} (hb : b.skipped = []) :
    b.step (.ending n.chars) = b.closeElement n.name := by
  simp only [step, Builder.endTag, hb]
  rfl

mutual

/-- The tokens of an element add the element. -/
theorem foldl_step_tokens {m : Markup} (hm : m.Plain) {b : Builder} (hb : b.Ready) :
    m.tokens.foldl step b = b.add m.node := by
  match m, hm with
  | leaf n text, hm =>
    have htext : PlainText text := hm
    have hopen := hb.openElement n
    have hflush : ((b.openElement n.name).step (.data text)).flush =
        (b.openElement n.name).add (.text .page (String.ofList text)) := by
      rw [← hopen.flush_data htext.visible]
      simp only [step, hopen.pending]
    have hskipped : ((b.openElement n.name).step (.data text)).skipped = [] := hopen.skipped
    rw [tokens, List.foldl_cons, step_opening, List.foldl_cons, List.foldl_cons, List.foldl_nil,
      step_ending n hskipped, closeElement_of_flush hflush (hopen.add _).pending]
    exact closeElement_addAll hb n.name [.text .page (String.ofList text)]
  | branch n children, hm =>
    have hchildren : PlainAll children := hm
    have hopen := hb.openElement n
    rw [tokens, List.foldl_cons, step_opening, List.foldl_append,
      foldl_step_tokensOf hchildren hopen, List.foldl_cons, List.foldl_nil,
      step_ending n (hopen.addAll _).skipped]
    exact closeElement_addAll hb n.name (nodesOf children)

theorem foldl_step_tokensOf {ms : List Markup} (hms : PlainAll ms) {b : Builder} (hb : b.Ready) :
    (tokensOf ms).foldl step b = b.addAll (nodesOf ms) := by
  match ms, hms with
  | [], _ => rfl
  | m :: ms, hms =>
    obtain ⟨hm, hms⟩ : m.Plain ∧ PlainAll ms := hms
    rw [tokensOf, List.foldl_append, foldl_step_tokens hm hb, foldl_step_tokensOf hms (hb.add _)]
    rfl

end

/-- Well-formed markup is parsed as the elements that it spells. -/
theorem parse_charsOf {ms : List Markup} (h : PlainAll ms) :
    parse (String.ofList (charsOf ms)) = .ok (nodesOf ms) := by
  have hbuilt : ofTokens (tokensOf ms) = nodesOf ms := by
    unfold ofTokens
    rw [foldl_step_tokensOf h ready_start, addAll_top rfl]
    unfold finish
    rw [flush_of_pending rfl]
    simp [start]
  unfold parse
  rw [String.toList_ofList, tokenize_charsOf h, ← hbuilt]
  rfl

end Markup
end ApiScribe.Document
