import ApiScribe.Outcome
import ApiScribe.Proofs.LastLineEnd.Tokens
import ApiScribe.Template.Parser.Statement

/-!
# Parsers on tokens that differ at their end

Two readings agree if they have read the same tokens and what is left differs at most in a text at
the end.  A parser is steady if from two readings that agree, whenever both are accepted, it gives
the same and the readings agree again, or both have come to the text at the end.  Once there, a
reading stays there.  Parsers that are put together from steady ones are steady, which is found by
instances, and so the whole grammar is: `steady_ofDepth`.
-/

namespace ApiScribe.Template

/-- Text outside of tags, or the end. -/
def Lexeme.isOutside : Lexeme → Bool
  | .data _ => true
  | .finish => true
  | _ => false

/-- Nothing is left but a text at the end, which may be the current token. -/
structure Reading.IsLast (r : Reading) : Prop where
  current : r.current.lexeme.isOutside = true
  rest : r.rest = []
  fault : r.fault = none

/-- Two readings differ at most in a text at their end that is still to come. -/
structure Reading.Agree (r r' : Reading) : Prop where
  current : r'.current = r.current
  left : Tokens.DifferAtEnd ⟨r.rest, r.fault⟩ ⟨r'.rest, r'.fault⟩
  tags : r'.tags = r.tags
  closers : r'.closers = r.closers
  bound : r'.bound = r.bound

namespace Parser

variable {α β : Type}

/-- Two results of a parser are the same, or both readings have come to their end. -/
def Same (found found' : α × Reading) : Prop :=
  (found'.1 = found.1 ∧ found.2.Agree found'.2) ∨ (found.2.IsLast ∧ found'.2.IsLast)

/-- Two results of a parser are the same even if both readings have come to their end. -/
def FirmlySame (found found' : α × Reading) : Prop :=
  found'.1 = found.1 ∧ (found.2.Agree found'.2 ∨ found.2.IsLast ∧ found'.2.IsLast)

theorem FirmlySame.same {found found' : α × Reading} (h : FirmlySame found found') :
    Same found found' :=
  h.2.imp_left fun hagree => ⟨h.1, hagree⟩

/-- A parser does the same on readings that agree. -/
class Steady (p : Parser α) : Prop where
  same {r r' : Reading} (h : r.Agree r') {found found' : α × Reading} (hp : p r = .ok found)
    (hp' : p r' = .ok found') : Same found found'
  last {r : Reading} (h : r.IsLast) {found : α × Reading} (hp : p r = .ok found) : found.2.IsLast

/-- On readings that agree a parser gives the same even if it comes to the end. -/
structure Firm (p : Parser α) : Prop where
  same {r r' : Reading} (h : r.Agree r') {found found' : α × Reading} (hp : p r = .ok found)
    (hp' : p r' = .ok found') : FirmlySame found found'

/-! ### One step after another -/

theorem Steady.andThen {x : Parser α} {f : α → Parser β} (hx : Steady x)
    (hf : ∀ a, Steady (f a)) : Steady (x >>= f) where
  same h found found' hp hp' := by
    obtain ⟨⟨a, s⟩, hxa, hfa⟩ := Outcome.bind_eq_ok.1 hp
    obtain ⟨⟨a', s'⟩, hxa', hfa'⟩ := Outcome.bind_eq_ok.1 hp'
    rcases hx.same h hxa hxa' with ⟨rfl, hs⟩ | ⟨hs, hs'⟩
    · exact (hf a').same hs hfa hfa'
    · exact .inr ⟨(hf a).last hs hfa, (hf a').last hs' hfa'⟩
  last h found hp := by
    obtain ⟨⟨a, s⟩, hxa, hfa⟩ := Outcome.bind_eq_ok.1 hp
    exact (hf a).last (hx.last h hxa) hfa

theorem Steady.bind {x : Parser α} {f : α → Parser β} [hx : Steady x] (hf : ∀ a, Steady (f a)) :
    Steady (x >>= f) :=
  hx.andThen hf

instance steady_bind (x : Parser α) (f : α → Parser β) [Steady x] [hf : ∀ a, Steady (f a)] :
    Steady (x >>= f) :=
  .bind hf

instance steady_ite (c : Prop) [Decidable c] (x y : Parser α) [Steady x] [Steady y] :
    Steady (if c then x else y) := by
  split
  · assumption
  · assumption

instance steady_pure (a : α) : Steady (pure a : Parser α) where
  same h found found' hp hp' := by
    cases hp
    cases hp'
    exact .inl ⟨rfl, h⟩
  last h found hp := by
    cases hp
    exact h

theorem Steady.iterate {step : α → Parser (Option α)} (hstep : ∀ a, Steady (step a)) (fuel : Nat)
    (a : α) : Steady (iterate step fuel a) := by
  induction fuel generalizing a with
  | zero => exact steady_pure a
  | succ fuel ih =>
    refine (hstep a).andThen fun next => ?_
    split
    · exact ih _
    · infer_instance

instance steady_iterate (step : α → Parser (Option α)) [hstep : ∀ a, Steady (step a)] (fuel : Nat)
    (a : α) : Steady (iterate step fuel a) :=
  .iterate hstep fuel a

/-! ### Steps -/

/-- A parser that never succeeds is steady. -/
theorem steady_of_fails {p : Parser α} (h : ∀ r found, p r ≠ .ok found) : Steady p where
  same _ _ _ hp := (h _ _ hp).elim
  last _ _ hp := (h _ _ hp).elim

instance steady_failAt (line : Nat) (message : String) :
    Steady (failAt line message : Parser α) :=
  steady_of_fails fun _ _ h => nomatch h

/-- What does not depend on the tokens that are left can be looked at. -/
theorem steady_read {f : Reading → α} (hf : ∀ {r r' : Reading}, r.Agree r' → f r' = f r) :
    Steady (return f (← get) : Parser α) where
  same h found found' hp hp' := by
    cases hp
    cases hp'
    exact .inl ⟨hf h, h⟩
  last h found hp := by
    cases hp
    exact h

instance steady_current : Steady current := steady_read (·.current)

instance steady_lexeme : Steady lexeme := steady_bind _ _

instance steady_line : Steady line := steady_bind _ _

instance steady_bound : Steady bound := steady_read (·.bound)

instance steady_fail (message : String) : Steady (fail message : Parser α) := steady_bind _ _

/-- The tags that are open and what would close them can be changed. -/
theorem steady_modify {f : Reading → Reading}
    (hf : ∀ {r r' : Reading}, r.Agree r' → (f r).Agree (f r'))
    (hlast : ∀ {r : Reading}, r.IsLast → (f r).IsLast) : Steady (modify f : Parser PUnit) where
  same h found found' hp hp' := by
    cases hp
    cases hp'
    exact .inl ⟨rfl, hf h⟩
  last h found hp := by
    cases hp
    exact hlast h

instance steady_modify_closers (f : List (List String) → List (List String)) :
    Steady (modify fun s => { s with closers := f s.closers } : Parser PUnit) :=
  steady_modify (fun h => { h with closers := congrArg f h.closers }) fun h => { h with }

instance steady_modify_tags (f : List String → List String) :
    Steady (modify fun s => { s with tags := f s.tags } : Parser PUnit) :=
  steady_modify (fun h => { h with tags := congrArg f h.tags }) fun h => { h with }

/-! ### The next token -/

theorem advance_cons {r : Reading} {t : Token} {ts : List Token} (h : r.rest = t :: ts) :
    advance r = .ok (r.current, { r with current := t, rest := ts }) := by
  unfold advance
  rw [h]

theorem advance_nil {r : Reading} {found : Token × Reading} (h : r.rest = [])
    (hp : advance r = .ok found) :
    r.fault = none ∧
      found = (r.current, { r with current := ⟨r.current.line, .finish⟩, rest := [] }) := by
  unfold advance at hp
  rw [h] at hp
  cases hfault : r.fault with
  | some fault =>
    rw [hfault] at hp
    cases hp
  | none =>
    rw [hfault] at hp
    cases hp
    exact ⟨rfl, rfl⟩

theorem advance_fst {r : Reading} {found : Token × Reading} (hp : advance r = .ok found) :
    found.1 = r.current := by
  unfold advance at hp
  split at hp <;> cases hp <;> rfl

/-- Where only a text is left, the next token is that text or the end. -/
theorem isLast_of_advance {r : Reading} {found : Token × Reading} (h : IsLastText r.rest)
    (hfault : r.fault = none) (hp : advance r = .ok found) : found.2.IsLast := by
  rcases h with h | ⟨line, text, h⟩
  · obtain ⟨-, rfl⟩ := advance_nil h hp
    exact ⟨rfl, rfl, hfault⟩
  · rw [advance_cons h] at hp
    cases hp
    exact ⟨rfl, rfl, hfault⟩

theorem firm_advance : Firm advance where
  same {r r'} h found found' hp hp' := by
    refine ⟨(advance_fst hp').trans (h.current.trans (advance_fst hp).symm), ?_⟩
    cases h.left with
    | same hrest =>
      cases hr : r.rest with
      | nil =>
        obtain ⟨-, rfl⟩ := advance_nil hr hp
        obtain ⟨-, rfl⟩ := advance_nil (Eq.trans hrest hr) hp'
        refine .inl { h with current := ?_, left := .same rfl }
        rw [h.current]
      | cons t ts =>
        rw [advance_cons hr] at hp
        rw [advance_cons (Eq.trans hrest hr)] at hp'
        cases hp
        cases hp'
        exact .inl { h with current := rfl, left := .same rfl }
    | text common last last' hl hl' hlast hlast' =>
      obtain ⟨hrest, hfault⟩ := Tokens.mk.inj hl
      obtain ⟨hrest', hfault'⟩ := Tokens.mk.inj hl'
      -- with nothing in common left, the next token of each is its text at the end, or the end
      cases common with
      | nil =>
        rw [List.nil_append] at hrest hrest'
        exact .inr ⟨isLast_of_advance (hrest ▸ hlast) hfault hp,
          isLast_of_advance (hrest' ▸ hlast') hfault' hp'⟩
      | cons t common =>
        rw [advance_cons hrest] at hp
        rw [advance_cons hrest'] at hp'
        cases hp
        cases hp'
        refine .inl { h with current := rfl, left := ?_ }
        exact .text common last last' (congrArg (Tokens.mk _) hfault)
          (congrArg (Tokens.mk _) hfault') hlast hlast'

instance steady_advance : Steady advance where
  same h _ _ hp hp' := (firm_advance.same h hp hp').same
  last h _ hp := isLast_of_advance (.inl h.rest) h.fault hp

/-- The first of the tokens, or the end. -/
def nextOf (ts : List Token) : Lexeme := (ts.head?.map Token.lexeme).getD .finish

theorem isOutside_nextOf {ts : List Token} (h : IsLastText ts) : (nextOf ts).isOutside = true := by
  rcases h with rfl | ⟨line, text, rfl⟩
  · rfl
  · rfl

theorem peek_eq_ok {r : Reading} {found : Lexeme × Reading} (hp : peek r = .ok found) :
    found = (nextOf r.rest, r) := by
  unfold peek at hp
  split at hp
  · next h =>
    cases hp
    rw [h]
    rfl
  · cases hp
  · next h _ =>
    cases hp
    rw [h]
    rfl

/-- A step may look at the next token if text outside of tags makes no difference to the end. -/
theorem steady_peek {f : Lexeme → Parser α} (hf : ∀ l, Steady (f l))
    (houtside : ∀ l, l.isOutside = true → f l = f .finish) : Steady (peek >>= f) where
  same {r r'} h found found' hp hp' := by
    obtain ⟨_, hl, hp⟩ := Outcome.bind_eq_ok.1 hp
    obtain ⟨_, hl', hp'⟩ := Outcome.bind_eq_ok.1 hp'
    cases peek_eq_ok hl
    cases peek_eq_ok hl'
    have hnext : f (nextOf r'.rest) = f (nextOf r.rest) := by
      cases h.left with
      | same hrest => exact congrArg (fun ts => f (nextOf ts)) hrest
      | text common last last' hl hl' hlast hlast' =>
        have hrest : r.rest = common ++ last := congrArg Tokens.items hl
        have hrest' : r'.rest = common ++ last' := congrArg Tokens.items hl'
        rw [hrest, hrest']
        cases common with
        | nil =>
          exact (houtside _ (isOutside_nextOf hlast')).trans
            (houtside _ (isOutside_nextOf hlast)).symm
        | cons t common => rfl
    dsimp only at hp hp'
    rw [hnext] at hp'
    exact (hf _).same h hp hp'
  last {r} h found hp := by
    obtain ⟨_, hl, hp⟩ := Outcome.bind_eq_ok.1 hp
    cases peek_eq_ok hl
    exact (hf _).last h hp

/-! ### Tokens as they are asked for -/

instance steady_expect (fits : Lexeme → Bool) (description : String) :
    Steady (expect fits description) := by
  unfold expect
  refine .bind fun l => ?_
  split
  · infer_instance
  · split <;> infer_instance

instance steady_expectSign (symbol : String) : Steady (expectSign symbol) := steady_bind _ _

instance steady_expectWord (word : String) : Steady (expectWord word) := steady_bind _ _

instance steady_expectBlockEnd : Steady expectBlockEnd := steady_bind _ _

instance steady_expectPrintEnd : Steady expectPrintEnd := steady_bind _ _

instance steady_expectName : Steady expectName := by
  refine .bind fun t => ?_
  split <;> infer_instance

instance steady_atSign (symbol : String) : Steady (atSign symbol) := steady_bind _ _

instance steady_atWord (word : String) : Steady (atWord word) := steady_bind _ _

instance steady_atBlockEnd : Steady atBlockEnd := steady_bind _ _

instance steady_atWords (first second : String) : Steady (atWords first second) := by
  have hpeek : Steady (return (← peek).isName second : Parser Bool) :=
    steady_peek (fun l => steady_pure _) fun l hl => by cases l <;> first | rfl | cases hl
  unfold atWords
  infer_instance

instance steady_skipSign (symbol : String) : Steady (skipSign symbol) := by
  unfold skipSign
  infer_instance

instance steady_skipWord (word : String) : Steady (skipWord word) := by
  unfold skipWord
  infer_instance

instance steady_skipWords (first second : String) : Steady (skipWords first second) := by
  unfold skipWords
  infer_instance

end Parser

namespace Grammar

open ApiScribe.Template.Parser

/-- All parsers of the grammar are steady. -/
class IsSteady (g : Grammar) : Prop where
  expression : Steady g.expression
  disjunction : Steady g.disjunction
  negation : Steady g.negation
  signed (withFilters : Bool) : Steady (g.signed withFilters)
  statement : Steady g.statement

attribute [instance] IsSteady.expression IsSteady.disjunction IsSteady.negation IsSteady.signed
  IsSteady.statement

variable (g : Grammar) [g.IsSteady]

/-! ### Expressions -/

instance steady_items (item : Parser Expr) [Steady item] (close : String) :
    Steady (items item close) := by
  unfold items
  dsimp only
  exact .bind fun _ => .bind fun _ => inferInstance

instance steady_pairs : Steady g.pairs := by
  unfold pairs
  dsimp only
  exact .bind fun _ => .andThen (.iterate (fun _ => .bind fun _ => inferInstance) _ _)
    fun _ => inferInstance

instance steady_atTupleEnd (words : List String) : Steady (atTupleEnd words) := steady_bind _ _

instance steady_tupleOf (item : Parser Expr) [Steady item] (endWords : List String)
    (parenthesised : Bool) : Steady (tupleOf item endWords parenthesised) := by
  unfold tupleOf
  repeat' first | infer_instance | refine .bind fun _ => ?_ | split

instance steady_primary (withCells : Bool) : Steady (g.primary withCells) := by
  unfold primary
  refine .bind fun l => ?_
  split
  · refine .bind fun _ => ?_
    split <;> infer_instance
  · refine .bind fun _ => .bind fun _ => .andThen (.iterate (fun acc => .bind fun _ => ?_) _ _)
      fun _ => inferInstance
    split <;> infer_instance
  all_goals infer_instance

/-! ### What follows a value -/

instance steady_sliceBound (beforeColon : Bool) : Steady (g.sliceBound beforeColon) := by
  unfold sliceBound
  infer_instance

instance steady_subscript : Steady g.subscript := by
  unfold subscript
  dsimp only
  repeat' first | infer_instance | refine .bind fun _ => ?_ | split

instance steady_subscripts : Steady g.subscripts := by
  unfold subscripts
  dsimp only
  refine .bind fun _ => .bind fun _ => .bind fun _ => ?_
  split <;> infer_instance

instance steady_memberOf (e : Expr) : Steady (memberOf e) := by
  refine .bind fun t => ?_
  split <;> infer_instance

instance steady_argument (opening : Nat) (a : Arguments) : Steady (g.argument opening a) := by
  unfold argument
  extract_lets ensure following
  have hensure (ok : Bool) : Steady (ensure ok) := by
    dsimp only [ensure]
    infer_instance
  have hfollowing (named : Option String) : Steady (following named) := by
    dsimp only [following]
    split <;> infer_instance
  refine .bind fun l => ?_
  split
  · infer_instance
  · infer_instance
  -- whether a name is that of an argument depends on the token after it
  · split
    · refine steady_peek (fun l => inferInstance) fun l hl => ?_
      cases l <;> first | rfl | cases hl
    · infer_instance

instance steady_arguments : Steady g.arguments := by
  unfold arguments
  dsimp only
  exact .bind fun _ => .bind fun _ => .bind fun _ => .bind fun _ => inferInstance

instance steady_callOf (f : Expr) : Steady (g.callOf f) := steady_bind _ _

instance steady_postfixes (e : Expr) : Steady (g.postfixes e) := by
  unfold postfixes
  refine .bind fun _ => .iterate (fun e => .bind fun l => ?_) _ _
  split <;> infer_instance

instance steady_dottedName : Steady dottedName := by
  unfold dottedName
  infer_instance

instance steady_filterOf (e : Option Expr) : Steady (g.filterOf e) := by
  unfold filterOf
  infer_instance

instance steady_filters (e : Option Expr) : Steady (g.filters e) := by
  unfold filters
  infer_instance

instance steady_testOf (e : Expr) : Steady (g.testOf e) := by
  unfold testOf
  dsimp only
  exact .bind fun _ => .bind fun _ => .bind fun _ => .bind fun _ => inferInstance

instance steady_filtersAndTests (e : Expr) : Steady (g.filtersAndTests e) := by
  unfold filtersAndTests
  refine .bind fun _ => .iterate (fun e => .bind fun l => ?_) _ _
  split <;> infer_instance

/-! ### Operators -/

instance steady_signedValue (withFilters : Bool) : Steady (g.signedValue withFilters) := by
  unfold signedValue
  dsimp only
  exact .bind fun _ => inferInstance

instance steady_chain (operand : Parser Expr) [Steady operand]
    (op? : Lexeme → Option (Expr → Expr → Expr)) : Steady (chain operand op?) := by
  unfold chain
  refine .bind fun _ => .bind fun _ => .iterate (fun left => .bind fun l => ?_) _ _
  split <;> infer_instance

instance steady_power : Steady g.power := steady_chain _ _

instance steady_product : Steady g.product := steady_chain _ _

instance steady_concatenation : Steady g.concatenation := by
  unfold concatenation
  refine .bind fun _ => .bind fun _ => .bind fun found => ?_
  split <;> infer_instance

instance steady_sum : Steady g.sum := steady_chain _ _

instance steady_comparison : Steady g.comparison := by
  unfold comparison
  refine .bind fun _ => .bind fun _ => .andThen (.iterate (fun acc => .bind fun l => ?_) _ _)
    fun _ => inferInstance
  split <;> infer_instance

instance steady_negationBody : Steady g.negationBody := by
  unfold negationBody
  infer_instance

instance steady_disjunctionBody : Steady g.disjunctionBody := steady_chain _ _

instance steady_expressionBody : Steady g.expressionBody := by
  unfold expressionBody
  dsimp only
  exact .bind fun _ => .bind fun _ => .bind fun _ => .bind fun _ => inferInstance

instance steady_tuple : Steady g.tuple := steady_tupleOf _ _ _

instance steady_plainTuple (endWords : List String) : Steady (g.plainTuple endWords) :=
  steady_tupleOf _ _ _

/-! ### Targets -/

instance steady_target (e : Expr) (line : Nat) : Steady (target e line) := by
  unfold target
  split <;> infer_instance

instance steady_targets (endWords : List String) (withCells : Bool) :
    Steady (g.targets endWords withCells) := by
  unfold targets
  infer_instance

instance steady_targetName : Steady targetName := by
  unfold targetName
  infer_instance

/-! ### Bodies -/

instance steady_bodyStep (closers : Option (List String)) (b : BodySoFar) :
    Steady (g.bodyStep closers b) := by
  unfold bodyStep
  split
  · infer_instance
  · refine .bind fun l => ?_
    split
    · infer_instance
    · infer_instance
    · refine .bind fun _ => .bind fun l' => ?_
      split <;> infer_instance
    · infer_instance

instance steady_body (closers : Option (List String)) : Steady (g.body closers) :=
  .andThen (steady_modify_closers _) fun _ => .bind fun _ => .bind fun _ =>
    .andThen (steady_modify_closers _) fun _ => steady_pure _

instance steady_bodyUntil (closers : List String) : Steady (g.bodyUntil closers) := by
  unfold bodyUntil
  refine .bind fun _ => .bind fun _ => .bind fun _ => .bind fun l => ?_
  split
  · exact steady_of_fails fun _ _ h => nomatch h
  · infer_instance

instance steady_closedBody (closer : String) : Steady (g.closedBody closer) := by
  unfold closedBody
  infer_instance

/-! ### Statements -/

instance steady_assignment : Steady g.assignment := by
  unfold assignment
  infer_instance

instance steady_loop (line : Nat) : Steady (g.loop line) := by
  unfold loop
  dsimp only
  exact .bind fun _ => .bind fun _ => .bind fun _ => .bind fun _ => inferInstance

instance steady_branch : Steady g.branch := by
  unfold branch
  dsimp only
  exact .bind fun _ => .bind fun _ => .bind fun _ => inferInstance

instance steady_binding : Steady g.binding := by
  unfold binding
  dsimp only
  exact .bind fun _ => .andThen (.iterate (fun _ => .bind fun _ => inferInstance) _ _)
    fun _ => inferInstance

instance steady_namedBlock (line : Nat) : Steady (g.namedBlock line) := by
  unfold namedBlock
  dsimp only
  exact .bind fun _ => .bind fun _ => .bind fun _ => inferInstance

instance steady_contextChoice : Steady contextChoice := by
  unfold contextChoice
  infer_instance

instance steady_insertion : Steady g.insertion := by
  unfold insertion
  infer_instance

instance steady_importWhole : Steady g.importWhole := by
  unfold importWhole
  infer_instance

instance steady_importNames (line : Nat) : Steady (g.importNames line) := by
  unfold importNames
  dsimp only
  refine .bind fun _ => .bind fun _ => .bind fun _ => .andThen (.iterate (fun acc => ?_) _ _)
    fun _ => inferInstance
  repeat' first | infer_instance | refine .bind fun _ => ?_ | split

instance steady_signature : Steady g.signature := by
  unfold signature
  dsimp only
  refine .bind fun _ => .bind fun _ => .andThen (.iterate (fun acc => .bind fun _ => ?_) _ _)
    fun _ => inferInstance
  infer_instance

instance steady_callWithBody (line : Nat) : Steady (g.callWithBody line) := by
  unfold callWithBody
  dsimp only
  repeat' first | infer_instance | refine .bind fun _ => ?_ | split

instance steady_filteredBody : Steady g.filteredBody := by
  unfold filteredBody
  infer_instance

instance steady_macroDefinition (line : Nat) : Steady (g.macroDefinition line) := by
  unfold macroDefinition
  infer_instance

instance steady_printed : Steady g.printed := by
  unfold printed
  dsimp only
  exact .bind fun _ => .bind fun _ => inferInstance

instance steady_statementBody : Steady g.statementBody := by
  unfold statementBody
  refine .bind fun t => ?_
  split
  · next word h =>
    -- every statement is read inside of its tag, which is pushed before and popped after it
    extract_lets inside
    have hinside (p : Parser Stmt) [Steady p] : Steady (inside p) :=
      .andThen (steady_modify_tags _) fun _ => .bind fun _ => .bind fun _ =>
        .andThen (steady_modify_tags _) fun _ => steady_pure _
    split
    all_goals first | infer_instance | exact steady_of_fails fun _ _ h => nomatch h
  · infer_instance

/-! ### The whole grammar -/

/-- All parsers of the grammar are steady. -/
instance steady_ofDepth (depth : Nat) : (ofDepth depth).IsSteady := by
  induction depth with
  | zero =>
    exact ⟨steady_fail _, steady_fail _, steady_fail _, fun _ => steady_fail _, steady_fail _⟩
  | succ n ih =>
    exact ⟨steady_expressionBody _, steady_disjunctionBody _, steady_negationBody _,
      steady_signedValue _, steady_statementBody _⟩

end Grammar
end ApiScribe.Template
