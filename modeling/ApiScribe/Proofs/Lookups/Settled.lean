import ApiScribe.Outcome
import ApiScribe.Template.Fold

/-!
# Settling keeps the names

An expression in which the parts with known values are written out mentions the same names as
before, since each written value keeps the expression it stands for.
-/

namespace ApiScribe.Template

/-- The names among mentions. -/
def namesIn (ms : List Mention) : List String := ms.filterMap Mention.name?

@[simp]
theorem namesIn_append (a b : List Mention) : namesIn (a ++ b) = namesIn a ++ namesIn b :=
  List.filterMap_append

@[simp]
theorem namesIn_filter (name : String) (line : Nat) (t : Bool) (ms : List Mention) :
    namesIn (.filter name line t :: ms) = namesIn ms := rfl

@[simp]
theorem namesIn_test (name : String) (line : Nat) (t : Bool) (ms : List Mention) :
    namesIn (.test name line t :: ms) = namesIn ms := rfl

variable {lenient : Bool}

/-- A written value adds integers to the mentions, and leaves out filters and tests. -/
theorem namesIn_known (t : Bool) (c : Constant) (e : Expr) :
    namesIn ((Expr.known c e).mentions t) = namesIn (e.mentions t) := by
  have hintegers (ns : List Int) : namesIn (ns.map .integer) = [] := by
    induction ns with
    | nil => rfl
    | cons n ns ih => exact ih
  rw [Expr.mentions, namesIn_append, hintegers, List.nil_append, namesIn, List.filterMap_filter]
  unfold namesIn
  congr 1
  funext m
  cases m <;> rfl

theorem namesIn_withConstant {e e' : Expr} (h : withConstant lenient e = .ok e') (t : Bool) :
    namesIn (e'.mentions t) = namesIn (e.mentions t) := by
  unfold withConstant at h
  split at h
  · cases h
  · cases h
    rfl
  · next v g _ =>
    cases hv : v.toConstant? g constantDepth with
    | none =>
      rw [hv] at h
      cases h
      rfl
    | some c =>
      rw [hv] at h
      cases h
      exact namesIn_known t c e

theorem namesIn_asWritten (t : Bool) (e : Expr) :
    namesIn (e.asWritten.mentions t) = namesIn (e.mentions t) := by
  unfold Expr.asWritten
  split
  · next c e b =>
    -- The sign of a base moves in front of the power; either way the base stands for `e`.
    have hpower (c : Constant) : namesIn ((Expr.binary .pow (.known c e) b).mentions t) =
        namesIn (e.mentions t) ++ namesIn (b.mentions t) := by
      rw [Expr.mentions, namesIn_append, namesIn_known]
    cases hc : c.unsigned? with
    | none => rfl
    | some c' =>
      show namesIn ((Expr.binary .pow (.known c' e) b).mentions t) = _
      rw [hpower, hpower]
  · rfl

mutual

theorem Expr.namesIn_fold : ∀ {e e' : Expr}, e.fold lenient = .ok e' → ∀ t,
    namesIn (e'.mentions t) = namesIn (e.mentions t)
  | .name _, _, h, _ => by cases h; rfl
  | .const _, _, h, _ => by cases h; rfl
  | .known _ _, _, h, _ => by cases h; rfl
  | .cell _ _, _, h, _ => by cases h; rfl
  | .tuple items, _, h, t => by
    obtain ⟨items', hitems, h⟩ := Outcome.bind_eq_ok.1 h
    rw [namesIn_withConstant h, Expr.mentions, Expr.mentions, namesIn_foldAll hitems]
  | .list items, _, h, t => by
    obtain ⟨items', hitems, h⟩ := Outcome.bind_eq_ok.1 h
    rw [namesIn_withConstant h, Expr.mentions, Expr.mentions, namesIn_foldAll hitems]
  | .dict pairs, _, h, t => by
    obtain ⟨pairs', hpairs, h⟩ := Outcome.bind_eq_ok.1 h
    rw [namesIn_withConstant h, Expr.mentions, Expr.mentions, namesIn_foldPairs hpairs]
  | .member e n, _, h, t => by
    obtain ⟨e', he, h⟩ := Outcome.bind_eq_ok.1 h
    rw [namesIn_withConstant h, Expr.mentions, Expr.mentions, Expr.namesIn_fold he]
  | .item e key, _, h, t => by
    obtain ⟨e', he, h⟩ := Outcome.bind_eq_ok.1 h
    obtain ⟨key', hkey, h⟩ := Outcome.bind_eq_ok.1 h
    rw [namesIn_withConstant h]
    simp only [Expr.mentions, namesIn_append, Expr.namesIn_fold he, Expr.namesIn_fold hkey]
  | .slice start stop step, _, h, t => by
    obtain ⟨start', hstart, h⟩ := Outcome.bind_eq_ok.1 h
    obtain ⟨stop', hstop, h⟩ := Outcome.bind_eq_ok.1 h
    obtain ⟨step', hstep, h⟩ := Outcome.bind_eq_ok.1 h
    cases h
    simp only [Expr.mentions, namesIn_append, namesIn_foldSome hstart, namesIn_foldSome hstop,
      namesIn_foldSome hstep]
  | .call g args named more moreNamed, _, h, t => by
    obtain ⟨g', hg, h⟩ := Outcome.bind_eq_ok.1 h
    obtain ⟨args', hargs, h⟩ := Outcome.bind_eq_ok.1 h
    obtain ⟨named', hnamed, h⟩ := Outcome.bind_eq_ok.1 h
    obtain ⟨more', hmore, h⟩ := Outcome.bind_eq_ok.1 h
    obtain ⟨moreNamed', hmoreNamed, h⟩ := Outcome.bind_eq_ok.1 h
    cases h
    simp only [Expr.mentions, namesIn_append, Expr.namesIn_fold hg, namesIn_foldAll hargs,
      namesIn_foldNamed hnamed, namesIn_foldSome hmore, namesIn_foldSome hmoreNamed]
  | .filter e n args named more moreNamed line, _, h, t => by
    obtain ⟨e', he, h⟩ := Outcome.bind_eq_ok.1 h
    obtain ⟨args', hargs, h⟩ := Outcome.bind_eq_ok.1 h
    obtain ⟨named', hnamed, h⟩ := Outcome.bind_eq_ok.1 h
    obtain ⟨more', hmore, h⟩ := Outcome.bind_eq_ok.1 h
    obtain ⟨moreNamed', hmoreNamed, h⟩ := Outcome.bind_eq_ok.1 h
    rw [namesIn_withConstant h]
    simp only [Expr.mentions, namesIn_filter, namesIn_append, namesIn_foldSome he,
      namesIn_foldAll hargs, namesIn_foldNamed hnamed, namesIn_foldSome hmore,
      namesIn_foldSome hmoreNamed]
  | .test e n args named more moreNamed line, _, h, t => by
    obtain ⟨e', he, h⟩ := Outcome.bind_eq_ok.1 h
    obtain ⟨args', hargs, h⟩ := Outcome.bind_eq_ok.1 h
    obtain ⟨named', hnamed, h⟩ := Outcome.bind_eq_ok.1 h
    obtain ⟨more', hmore, h⟩ := Outcome.bind_eq_ok.1 h
    obtain ⟨moreNamed', hmoreNamed, h⟩ := Outcome.bind_eq_ok.1 h
    rw [namesIn_withConstant h]
    simp only [Expr.mentions, namesIn_test, namesIn_append, Expr.namesIn_fold he,
      namesIn_foldAll hargs, namesIn_foldNamed hnamed, namesIn_foldSome hmore,
      namesIn_foldSome hmoreNamed]
  | .unary op e, _, h, t => by
    obtain ⟨e', he, h⟩ := Outcome.bind_eq_ok.1 h
    rw [namesIn_withConstant h, Expr.mentions, Expr.mentions, Expr.namesIn_fold he]
  | .binary op a b, _, h, t => by
    obtain ⟨a', ha, h⟩ := Outcome.bind_eq_ok.1 h
    obtain ⟨b', hb, h⟩ := Outcome.bind_eq_ok.1 h
    obtain ⟨e', he, h⟩ := Outcome.bind_eq_ok.1 h
    cases h
    rw [namesIn_asWritten, namesIn_withConstant he]
    simp only [Expr.mentions, namesIn_append, Expr.namesIn_fold ha, Expr.namesIn_fold hb]
  | .both a b, _, h, t => by
    obtain ⟨a', ha, h⟩ := Outcome.bind_eq_ok.1 h
    obtain ⟨b', hb, h⟩ := Outcome.bind_eq_ok.1 h
    rw [namesIn_withConstant h]
    simp only [Expr.mentions, namesIn_append, Expr.namesIn_fold ha, Expr.namesIn_fold hb]
  | .either a b, _, h, t => by
    obtain ⟨a', ha, h⟩ := Outcome.bind_eq_ok.1 h
    obtain ⟨b', hb, h⟩ := Outcome.bind_eq_ok.1 h
    rw [namesIn_withConstant h]
    simp only [Expr.mentions, namesIn_append, Expr.namesIn_fold ha, Expr.namesIn_fold hb]
  | .compare e others, _, h, t => by
    obtain ⟨e', he, h⟩ := Outcome.bind_eq_ok.1 h
    obtain ⟨others', hothers, h⟩ := Outcome.bind_eq_ok.1 h
    rw [namesIn_withConstant h]
    simp only [Expr.mentions, namesIn_append, Expr.namesIn_fold he, namesIn_foldCompared hothers]
  | .concat items, _, h, t => by
    obtain ⟨items', hitems, h⟩ := Outcome.bind_eq_ok.1 h
    rw [namesIn_withConstant h, Expr.mentions, Expr.mentions, namesIn_foldAll hitems]
  | .choice test yes no line, _, h, t => by
    obtain ⟨test', htest, h⟩ := Outcome.bind_eq_ok.1 h
    obtain ⟨yes', hyes, h⟩ := Outcome.bind_eq_ok.1 h
    obtain ⟨no', hno, h⟩ := Outcome.bind_eq_ok.1 h
    rw [namesIn_withConstant h]
    simp only [Expr.mentions, namesIn_append, Expr.namesIn_fold htest, Expr.namesIn_fold hyes,
      namesIn_foldSome hno]

theorem namesIn_foldAll : ∀ {es es' : List Expr}, foldAll lenient es = .ok es' → ∀ t,
    namesIn (mentionsOf t es') = namesIn (mentionsOf t es)
  | [], _, h, _ => by cases h; rfl
  | e :: es, _, h, t => by
    obtain ⟨e', he, h⟩ := Outcome.bind_eq_ok.1 h
    obtain ⟨es', hes, h⟩ := Outcome.bind_eq_ok.1 h
    cases h
    simp only [mentionsOf, namesIn_append, Expr.namesIn_fold he, namesIn_foldAll hes]

theorem namesIn_foldSome : ∀ {e e' : Option Expr}, foldSome lenient e = .ok e' → ∀ t,
    namesIn (mentionsOf? t e') = namesIn (mentionsOf? t e)
  | none, _, h, _ => by cases h; rfl
  | some e, _, h, t => by
    obtain ⟨e', he, h⟩ := Outcome.bind_eq_ok.1 h
    cases h
    simp only [mentionsOf?, Expr.namesIn_fold he]

theorem namesIn_foldPairs : ∀ {pairs pairs' : List (Expr × Expr)},
    foldPairs lenient pairs = .ok pairs' → ∀ t,
    namesIn (mentionsOfPairs t pairs') = namesIn (mentionsOfPairs t pairs)
  | [], _, h, _ => by cases h; rfl
  | (k, e) :: rest, _, h, t => by
    obtain ⟨k', hk, h⟩ := Outcome.bind_eq_ok.1 h
    obtain ⟨e', he, h⟩ := Outcome.bind_eq_ok.1 h
    obtain ⟨rest', hrest, h⟩ := Outcome.bind_eq_ok.1 h
    cases h
    simp only [mentionsOfPairs, namesIn_append, Expr.namesIn_fold hk, Expr.namesIn_fold he,
      namesIn_foldPairs hrest]

theorem namesIn_foldNamed : ∀ {named named' : List (String × Expr)},
    foldNamed lenient named = .ok named' → ∀ t,
    namesIn (mentionsOfNamed t named') = namesIn (mentionsOfNamed t named)
  | [], _, h, _ => by cases h; rfl
  | (name, e) :: rest, _, h, t => by
    obtain ⟨e', he, h⟩ := Outcome.bind_eq_ok.1 h
    obtain ⟨rest', hrest, h⟩ := Outcome.bind_eq_ok.1 h
    cases h
    simp only [mentionsOfNamed, namesIn_append, Expr.namesIn_fold he, namesIn_foldNamed hrest]

theorem namesIn_foldCompared : ∀ {others others' : List (CompareOp × Expr)},
    foldCompared lenient others = .ok others' → ∀ t,
    namesIn (mentionsOfCompared t others') = namesIn (mentionsOfCompared t others)
  | [], _, h, _ => by cases h; rfl
  | (op, e) :: rest, _, h, t => by
    obtain ⟨e', he, h⟩ := Outcome.bind_eq_ok.1 h
    obtain ⟨rest', hrest, h⟩ := Outcome.bind_eq_ok.1 h
    cases h
    simp only [mentionsOfCompared, namesIn_append, Expr.namesIn_fold he,
      namesIn_foldCompared hrest]

end

mutual

theorem Expr.namesIn_settled : ∀ {e e' : Expr}, e.settled lenient = .ok e' → ∀ t,
    namesIn (e'.mentions t) = namesIn (e.mentions t)
  | .tuple items, _, h, t => by
    obtain ⟨items', hitems, h⟩ := Outcome.bind_eq_ok.1 h
    cases h
    rw [Expr.mentions, Expr.mentions, namesIn_settledAll hitems]
  | .list items, _, h, t => by
    obtain ⟨items', hitems, h⟩ := Outcome.bind_eq_ok.1 h
    cases h
    rw [Expr.mentions, Expr.mentions, namesIn_settledAll hitems]
  | .dict pairs, _, h, t => by
    obtain ⟨pairs', hpairs, h⟩ := Outcome.bind_eq_ok.1 h
    cases h
    rw [Expr.mentions, Expr.mentions, namesIn_settledPairs hpairs]
  -- Only tuples, lists and dictionaries are settled part by part: the rest is folded as a whole.
  | .name _, _, h, t | .const _, _, h, t | .known _ _, _, h, t | .cell _ _, _, h, t
  | .member _ _, _, h, t | .item _ _, _, h, t | .slice _ _ _, _, h, t | .call _ _ _ _ _, _, h, t
  | .filter _ _ _ _ _ _ _, _, h, t | .test _ _ _ _ _ _ _, _, h, t | .unary _ _, _, h, t
  | .binary _ _ _, _, h, t | .both _ _, _, h, t | .either _ _, _, h, t | .compare _ _, _, h, t
  | .concat _, _, h, t | .choice _ _ _ _, _, h, t => Expr.namesIn_fold h t

theorem namesIn_settledAll : ∀ {es es' : List Expr}, settledAll lenient es = .ok es' → ∀ t,
    namesIn (mentionsOf t es') = namesIn (mentionsOf t es)
  | [], _, h, _ => by cases h; rfl
  | e :: es, _, h, t => by
    obtain ⟨e', he, h⟩ := Outcome.bind_eq_ok.1 h
    obtain ⟨es', hes, h⟩ := Outcome.bind_eq_ok.1 h
    cases h
    simp only [mentionsOf, namesIn_append, Expr.namesIn_settled he, namesIn_settledAll hes]

theorem namesIn_settledPairs : ∀ {pairs pairs' : List (Expr × Expr)},
    settledPairs lenient pairs = .ok pairs' → ∀ t,
    namesIn (mentionsOfPairs t pairs') = namesIn (mentionsOfPairs t pairs)
  | [], _, h, _ => by cases h; rfl
  | (k, e) :: rest, _, h, t => by
    obtain ⟨k', hk, h⟩ := Outcome.bind_eq_ok.1 h
    obtain ⟨e', he, h⟩ := Outcome.bind_eq_ok.1 h
    obtain ⟨rest', hrest, h⟩ := Outcome.bind_eq_ok.1 h
    cases h
    simp only [mentionsOfPairs, namesIn_append, Expr.namesIn_settled hk, Expr.namesIn_settled he,
      namesIn_settledPairs hrest]

end

/-- A settled expression has the names that it had before. -/
theorem Expr.names_settled {e e' : Expr} (h : e.settled lenient = .ok e') : e'.names = e.names :=
  Expr.namesIn_settled h false

/-- The names of a piece of output. -/
def Piece.names (piece : Piece) : List String := (piece.expr?.map Expr.names).getD []

/-- A settled piece of output has the names that it had before. -/
theorem Piece.names_settled {piece piece' : Piece} (h : piece.settled lenient = .ok piece') :
    piece'.names = piece.names := by
  cases piece with
  | data s => cases h; rfl
  | known s e => cases h; rfl
  | print e =>
    -- Text that is known beforehand still stands for the printed expression.
    unfold Piece.settled at h
    dsimp only at h
    cases htext : e.constantText? lenient with
    | some text =>
      rw [htext] at h
      cases h
      rfl
    | none =>
      rw [htext] at h
      obtain ⟨e', he, rfl⟩ := Outcome.map_eq_ok.1 h
      exact Expr.names_settled he

end ApiScribe.Template
