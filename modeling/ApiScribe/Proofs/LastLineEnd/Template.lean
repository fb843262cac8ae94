import ApiScribe.Proofs.LastLineEnd.Parsers
import ApiScribe.Proofs.Lookups.Alike

/-!
# Templates with and without their last line end

A template for inspection loses the last line end of its text and one for rendering keeps it.  Both
readings go on as one until they come to the text at the end, which is part of the output of the
template itself: inside of a tag, or of a body that a tag closes, neither would be accepted.  So the
two mention the same names in the same places: `alike_of_parse`.
-/

namespace ApiScribe.Template

namespace Parser

variable {α β : Type}

/-! ### Parsers where only a text is left -/

/-- Where only a text is left, the parser gives values with a property alone. -/
structure GivesLast (p : Parser α) (P : α → Prop) : Prop where
  gives {r : Reading} (h : r.IsLast) {found : α × Reading} (hp : p r = .ok found) : P found.1

/-- The parser accepts nothing where only a text is left. -/
abbrev FailsLast (p : Parser α) : Prop := GivesLast p fun _ => False

section
variable {P : β → Prop}

theorem givesLast_pure {b : β} (hb : P b) : GivesLast (pure b : Parser β) P where
  gives _ found hp := by
    cases hp
    exact hb

theorem givesLast_lexeme_bind {f : Lexeme → Parser β}
    (hf : ∀ l, l.isOutside = true → GivesLast (f l) P) : GivesLast (lexeme >>= f) P where
  gives h _ hp := (hf _ h.current).gives h hp

theorem GivesLast.after {p : Parser α} [hp : Steady p] {f : α → Parser β}
    (hf : ∀ a, GivesLast (f a) P) : GivesLast (p >>= f) P where
  gives hr found h := by
    obtain ⟨⟨a, s⟩, hpa, hfa⟩ := Outcome.bind_eq_ok.1 h
    exact (hf a).gives (hp.last hr hpa) hfa

theorem FailsLast.andThen {p : Parser α} (h : FailsLast p) (f : α → Parser β) :
    GivesLast (p >>= f) P where
  gives hr found hp := by
    obtain ⟨_, hp, -⟩ := Outcome.bind_eq_ok.1 hp
    exact (h.gives hr hp).elim

end

theorem failsLast_expect {fits : Lexeme → Bool} (hfits : ∀ l, l.isOutside = true → fits l = false)
    (description : String) : FailsLast (expect fits description) := by
  refine givesLast_lexeme_bind fun l hl => ?_
  rw [hfits l hl, if_neg Bool.false_ne_true]
  split <;> exact ⟨fun _ _ h => by cases h⟩

theorem failsLast_expectBlockEnd : FailsLast expectBlockEnd :=
  (failsLast_expect (fun l hl => by cases l <;> first | rfl | cases hl) _).andThen _

theorem failsLast_expectPrintEnd : FailsLast expectPrintEnd :=
  (failsLast_expect (fun l hl => by cases l <;> first | rfl | cases hl) _).andThen _

/-! ### Parsers that give the same even at the end -/

theorem firm_pure (a : α) : Firm (pure a : Parser α) where
  same h found found' hp hp' := by
    cases hp
    cases hp'
    exact ⟨rfl, .inl h⟩

theorem firm_lexeme_bind {f : Lexeme → Parser α} (hf : ∀ l, Firm (f l)) : Firm (lexeme >>= f) where
  same {r r'} h found found' hp hp' := by
    have hp : f r.current.lexeme r = .ok found := hp
    have hp' : f r'.current.lexeme r' = .ok found' := hp'
    rw [h.current] at hp'
    exact (hf _).same h hp hp'

theorem Firm.map {p : Parser α} (hp : Firm p) (f : α → β) : Firm (do return f (← p)) where
  same h found found' hb hb' := by
    obtain ⟨⟨a, s⟩, hpa, hfa⟩ := Outcome.bind_eq_ok.1 hb
    obtain ⟨⟨a', s'⟩, hpa', hfa'⟩ := Outcome.bind_eq_ok.1 hb'
    obtain ⟨ha, hs⟩ := hp.same h hpa hpa'
    cases hfa
    cases hfa'
    exact ⟨congrArg f ha, hs⟩

/-- The value of the first step is the same if the second one fails at the end. -/
theorem Firm.after {p : Parser α} [hp : Steady p] {f : α → Parser β} (hf : ∀ a, Firm (f a))
    (hfails : ∀ a, FailsLast (f a)) : Firm (p >>= f) where
  same h found found' hb hb' := by
    obtain ⟨⟨a, s⟩, hpa, hfa⟩ := Outcome.bind_eq_ok.1 hb
    obtain ⟨⟨a', s'⟩, hpa', hfa'⟩ := Outcome.bind_eq_ok.1 hb'
    rcases hp.same h hpa hpa' with ⟨rfl, hs⟩ | ⟨hs, -⟩
    · exact (hf a').same hs hfa hfa'
    · exact ((hfails a).gives hs hfa).elim

theorem firm_expect (fits : Lexeme → Bool) (description : String) :
    Firm (expect fits description) := by
  refine firm_lexeme_bind fun l => ?_
  split
  · exact firm_advance
  · split <;> exact ⟨fun _ _ _ h => by cases h⟩

section
variable {p : Parser α} [Steady p] {close : Parser Unit} (hfails : FailsLast close) (f : α → β)

include hfails

theorem failsLast_tag : FailsLast (do let a ← p; close; return f a) :=
  .after fun _ => hfails.andThen _

/-- What a tag holds is the same, since its end is no text. -/
theorem firm_tag (hclose : Firm close) : Firm (do let a ← p; close; return f a) :=
  .after (fun a => hclose.map fun _ => f a) fun _ => hfails.andThen _

end

end Parser

namespace Grammar

open ApiScribe.Template.Parser

/-! ### Bodies as far as they are read -/

/-- Of two bodies the same statements are read, and pieces that mention the same names. -/
structure BodySoFar.Alike (b b' : BodySoFar) : Prop where
  pieces : b'.pieces.reverse.flatMap Piece.names = b.pieces.reverse.flatMap Piece.names
  statements : b'.statements = b.statements

namespace BodySoFar.Alike

variable {b b' b'' : BodySoFar}

theorem refl (b : BodySoFar) : b.Alike b := ⟨rfl, rfl⟩

theorem symm (h : b.Alike b') : b'.Alike b := ⟨h.pieces.symm, h.statements.symm⟩

theorem trans (h : b.Alike b') (h' : b'.Alike b'') : b.Alike b'' :=
  ⟨h'.pieces.trans h.pieces, h'.statements.trans h.statements⟩

end BodySoFar.Alike

variable (g : Grammar) [g.IsSteady]

theorem firm_bodyStep (b : BodySoFar) : Firm (g.bodyStep none b) := by
  unfold bodyStep
  split
  · exact firm_pure _
  · refine firm_lexeme_bind fun l => ?_
    split
    · exact firm_advance.map _
    · exact .after (fun _ => firm_tag failsLast_expectPrintEnd _ ((firm_expect _ _).map _))
        fun _ => failsLast_tag failsLast_expectPrintEnd _
    -- a statement and the end of its tag are one step: only the second fails at a text
    · have hfirm : Firm (do
          let s ← g.statement
          expectBlockEnd
          return some (BodySoFar.mk [] (s :: b.flush) false)) :=
        firm_tag failsLast_expectBlockEnd _ ((firm_expect _ _).map _)
      have hfails := failsLast_tag (p := g.statement) failsLast_expectBlockEnd
        fun s => some (BodySoFar.mk [] (s :: b.flush) false)
      exact .after (fun _ => firm_lexeme_bind fun l => by cases l <;> exact hfirm)
        fun _ => .after fun l => by cases l <;> exact hfails
    · exact firm_pure _

omit [g.IsSteady] in
/-- Where only a text is left, the step reads that text or ends the body. -/
theorem givesLast_bodyStep (b : BodySoFar) :
    GivesLast (g.bodyStep none b) fun next => ∀ b' ∈ next, b.Alike b' := by
  have hnone : GivesLast (pure none : Parser (Option BodySoFar)) fun next =>
      ∀ b' ∈ next, b.Alike b' :=
    givesLast_pure fun _ h => nomatch h
  unfold bodyStep
  split
  · exact hnone
  · refine givesLast_lexeme_bind fun l hl => ?_
    cases l with
    | data text =>
      refine .after fun _ => givesLast_pure fun b' hb' => ?_
      cases hb'
      refine ⟨?_, rfl⟩
      rw [List.reverse_cons, List.flatMap_append]
      exact List.append_nil _
    | finish => exact hnone
    | _ => cases hl

theorem alike_iterate_of_isLast (fuel : Nat) (b : BodySoFar) {r : Reading} (h : r.IsLast)
    {found : BodySoFar × Reading} (hp : iterate (g.bodyStep none) fuel b r = .ok found) :
    b.Alike found.1 := by
  induction fuel generalizing b r with
  | zero =>
    cases hp
    exact .refl b
  | succ fuel ih =>
    obtain ⟨⟨next, s⟩, hstep, hp⟩ := Outcome.bind_eq_ok.1 hp
    cases next with
    | none =>
      cases hp
      exact .refl b
    | some next =>
      have hs : s.IsLast := (steady_bodyStep g none b).last h hstep
      exact ((g.givesLast_bodyStep b).gives h hstep _ rfl).trans (ih next hs hp)

/-- Bodies of whole templates differ at most in the text at their end. -/
theorem alike_iterate (fuel : Nat) (b : BodySoFar) {r r' : Reading} (h : r.Agree r')
    {found found' : BodySoFar × Reading} (hp : iterate (g.bodyStep none) fuel b r = .ok found)
    (hp' : iterate (g.bodyStep none) fuel b r' = .ok found') : found.1.Alike found'.1 := by
  induction fuel generalizing b r r' with
  | zero =>
    cases hp
    cases hp'
    exact .refl b
  | succ fuel ih =>
    obtain ⟨⟨next, s⟩, hstep, hp⟩ := Outcome.bind_eq_ok.1 hp
    obtain ⟨⟨next', s'⟩, hstep', hp'⟩ := Outcome.bind_eq_ok.1 hp'
    obtain ⟨rfl, hs⟩ := (g.firm_bodyStep b).same h hstep hstep'
    cases next' with
    | none =>
      cases hp
      cases hp'
      exact .refl b
    | some next =>
      rcases hs with hs | ⟨hs, hs'⟩
      · exact ih next hs hp hp'
      -- both have come to their ends, and from there on neither changes its body
      · exact (g.alike_iterate_of_isLast fuel next hs hp).symm.trans
          (g.alike_iterate_of_isLast fuel next hs' hp')

end Grammar

/-! ### Templates -/

section
variable {body body' : List Stmt}

theorem Alike.append_left (before : List Stmt) (h : Alike body body') :
    Alike (before ++ body) (before ++ body') := by
  induction before with
  | nil => exact h
  | cons s before ih => exact .cons (.refl s) ih

/-- An output that mentions no names may be left out. -/
theorem alike_output {pieces : List Piece} (h : pieces.flatMap Piece.names = []) :
    Alike [] [.output pieces] := by
  refine ⟨fun outer l => ?_, ?_, rfl, rfl, fun _ => rfl⟩
  · have hone : declareAll outer l [.output pieces] =
        l.readAll outer ((pieces.filterMap Piece.expr?).flatMap Expr.names) := rfl
    rw [hone, Piece.flatMap_names, h]
    rfl
  · have hone : usesOf [.output pieces] = (pieces.filterMap Piece.expr?).flatMap Expr.uses :=
      List.append_nil _
    rw [hone, Piece.flatMap_uses, h]
    rfl

end

/-- Bodies so far that are alike end as bodies that are alike. -/
theorem Grammar.BodySoFar.Alike.flush {b b' : Grammar.BodySoFar} (h : b.Alike b') :
    Template.Alike b.flush.reverse b'.flush.reverse := by
  have hflush (c : Grammar.BodySoFar) : c.flush.reverse =
      c.statements.reverse ++ if c.pieces.isEmpty then [] else [.output c.pieces.reverse] := by
    unfold Grammar.BodySoFar.flush
    split
    · rw [List.append_nil]
    · rw [List.reverse_cons]
  have hpieces := h.pieces
  rw [hflush, hflush, h.statements]
  refine .append_left _ ?_
  split
  · next hb =>
    rw [List.isEmpty_iff.1 hb] at hpieces
    split
    · exact .refl []
    · exact alike_output hpieces
  · split
    · next hb =>
      rw [List.isEmpty_iff.1 hb] at hpieces
      exact (alike_output hpieces.symm).symm
    · exact .cons (.output hpieces) (.refl [])

/-- The place before the first of the tokens. -/
def Reading.start (size : Nat) (tokens : Tokens) : Reading :=
  ⟨⟨1, .finish⟩, tokens.items, tokens.fault, [], [], size + 2⟩

/-- A whole template is read by the steps of a body from its first token on. -/
theorem exists_iterate_of_parseTokens {size : Nat} {tokens : Tokens} {body : List Stmt}
    (h : parseTokens size tokens = .ok body) :
    ∃ (t : Token) (r s : Reading) (b : Grammar.BodySoFar),
      Parser.advance (.start size tokens) = .ok (t, r) ∧
        Parser.iterate ((Grammar.ofDepth (size + 2)).bodyStep none) r.bound {} r = .ok (b, s) ∧
          body = b.flush.reverse := by
  obtain ⟨found, hfound, rfl⟩ := Outcome.map_eq_ok.1 h
  obtain ⟨⟨t, r⟩, hadvance, hbody⟩ := Outcome.bind_eq_ok.1 hfound
  obtain ⟨⟨b, s⟩, hiterate, hlist⟩ := Outcome.bind_eq_ok.1 hbody
  cases hlist
  exact ⟨t, r, s, b, hadvance, hiterate, rfl⟩

theorem alike_of_parseTokens {size : Nat} {tokens tokens' : Tokens} {body body' : List Stmt}
    (htokens : tokens.DifferAtEnd tokens') (h : parseTokens size tokens = .ok body)
    (h' : parseTokens size tokens' = .ok body') : Alike body body' := by
  obtain ⟨t, r, s, b, hadvance, hiterate, rfl⟩ := exists_iterate_of_parseTokens h
  obtain ⟨t', r', s', b', hadvance', hiterate', rfl⟩ := exists_iterate_of_parseTokens h'
  have hstart : (Reading.start size tokens).Agree (.start size tokens') :=
    ⟨rfl, htokens, rfl, rfl, rfl⟩
  have halike : b.Alike b' := by
    rcases (Parser.firm_advance.same hstart hadvance hadvance').2 with hr | ⟨hr, hr'⟩
    · have hbound : r'.bound = r.bound := hr.bound
      rw [hbound] at hiterate'
      exact Grammar.alike_iterate _ _ _ hr hiterate hiterate'
    · exact (Grammar.alike_iterate_of_isLast _ _ _ hr hiterate).symm.trans
        (Grammar.alike_iterate_of_isLast _ _ _ hr' hiterate')
  exact halike.flush

/-- The template without its last line end and the whole template mention the same names in the same
places. -/
theorem alike_of_parse {source : List Char} {body body' : List Stmt}
    (h : parse false source = .ok body) (h' : parse true source = .ok body') :
    Alike body body' :=
  alike_of_parseTokens (tokenize_differAtEnd source) h h'

end ApiScribe.Template
