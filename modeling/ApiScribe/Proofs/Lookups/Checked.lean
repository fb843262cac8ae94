import ApiScribe.Outcome
import ApiScribe.Proofs.Lookups.Alike
import ApiScribe.Template.Check

/-!
# The check of a template finds what the template looks up

A template that passes the check mentions the same names as before (`Alike`), and each name that it
looks up is among the variables that the check has found, unless every template knows it
(`exists_isOf_of_compile`).  The walk goes through all bodies that may begin while the template
runs; only what follows a second parent is left out, so the statement is about templates that refer
to no other.
-/

namespace ApiScribe.Template

namespace Checker

variable {α β γ : Type}

/-- When the step succeeds, its value has the property, nothing that was found is lost, and the
given names are found, unless every template knows them. -/
def Finds (x : Checker α) (N : String → Prop) (P : α → Prop) : Prop :=
  ∀ s a s', x s = .ok (a, s') → P a ∧ (∀ n ∈ s.needed, n ∈ s'.needed) ∧
    ∀ n, N n → n ∈ s'.needed ∨ n ∈ globalNames

/-- The step need not find anything. -/
def Keeps (x : Checker α) (P : α → Prop) : Prop := x.Finds (fun _ => False) P

variable {x : Checker α} {f : α → Checker β} {N N' : String → Prop} {P : α → Prop} {Q : β → Prop}

/-- The names to be found may be fewer. -/
theorem Finds.mono (h : x.Finds N P) (hN : ∀ n, N' n → N n) : x.Finds N' P := by
  intro s a s' hx
  obtain ⟨ha, hkept, hfound⟩ := h s a s' hx
  exact ⟨ha, hkept, fun n hn => hfound n (hN n hn)⟩

/-- Of the value less may be said. -/
theorem Finds.imp {P' : α → Prop} (h : x.Finds N P) (hP : ∀ a, P a → P' a) : x.Finds N P' := by
  intro s a s' hx
  obtain ⟨ha, hrest⟩ := h s a s' hx
  exact ⟨hP a ha, hrest⟩

theorem Finds.bind (hx : x.Finds N P) (hf : ∀ a, P a → (f a).Finds N' Q) :
    (x >>= f).Finds (fun n => N n ∨ N' n) Q := by
  intro s b s'' h
  obtain ⟨⟨a, s'⟩, hxa, h⟩ := Outcome.bind_eq_ok.1 h
  obtain ⟨ha, hkept, hfound⟩ := hx s a s' hxa
  obtain ⟨hb, hkept', hfound'⟩ := hf a ha s' b s'' h
  refine ⟨hb, fun n hn => hkept' n (hkept n hn), fun n hn => ?_⟩
  rcases hn with hn | hn
  · exact (hfound n hn).imp_left (hkept' n)
  · exact hfound' n hn

theorem Keeps.bind (hx : x.Keeps P) (hf : ∀ a, P a → (f a).Finds N Q) : (x >>= f).Finds N Q :=
  (Finds.bind hx hf).mono fun _ => .inr

/-- A step that need not find anything can come last. -/
theorem Finds.andKeep (hx : x.Finds N P) (hf : ∀ a, P a → (f a).Keeps Q) : (x >>= f).Finds N Q :=
  (hx.bind hf).mono fun _ => .inl

theorem keeps_pure {a : α} (ha : P a) : (pure a : Checker α).Keeps P := by
  intro s b s' h
  cases h
  exact ⟨ha, fun _ hn => hn, fun _ hn => hn.elim⟩

theorem finds_refuse (line : Nat) (message : String) :
    (refuse line message : Checker α).Finds N P :=
  fun _ _ _ h => nomatch h

theorem keeps_computed {x : Except Fault α} : (computed x).Keeps fun a => x = .ok a := by
  cases x with
  | error fault => exact fun _ _ _ h => nomatch h
  | ok a => exact keeps_pure rfl

theorem keeps_get : (get : Checker Findings).Keeps fun _ => True := by
  intro s a s' h
  cases h
  exact ⟨trivial, fun _ hn => hn, fun _ hn => hn.elim⟩

theorem keeps_modify {f : Findings → Findings} (hf : ∀ s, (f s).needed = s.needed) :
    (modify f : Checker PUnit).Keeps fun _ => True := by
  intro s a s' h
  cases h
  exact ⟨trivial, fun n hn => (hf s).symm ▸ hn, fun _ hn => hn.elim⟩

/-- A refusal before the step. -/
theorem finds_guard {c : Prop} [Decidable c] {line : Nat} {message : String} {f : Unit → Checker α}
    (hf : (f ()).Finds N P) : (if c then refuse line message >>= f else f ()).Finds N P := by
  split
  · exact fun _ _ _ h => nomatch h
  · exact hf

/-- Two ways to go on with the step. -/
theorem Keeps.ite {c : Prop} [Decidable c] {y : Checker α} (hx : c → x.Keeps P)
    (hy : ¬ c → y.Keeps P) (hf : ∀ a, P a → (f a).Finds N Q) :
    (if c then x >>= f else y >>= f).Finds N Q := by
  split
  · next hc => exact (hx hc).bind hf
  · next hc => exact (hy hc).bind hf

theorem keeps_forM {f : α → Checker PUnit} (hf : ∀ a, (f a).Keeps fun _ => True) (as : List α) :
    (as.forM f).Keeps fun _ => True := by
  induction as with
  | nil => exact keeps_pure trivial
  | cons a as ih => exact (hf a).bind fun _ _ => ih

theorem finds_mapM {f : α → Checker β} {N : α → String → Prop} {g : β → γ} {g' : α → γ}
    (hf : ∀ a, (f a).Finds (N a) fun b => g b = g' a) (as : List α) :
    (as.mapM f).Finds (fun n => ∃ a ∈ as, N a n) fun bs => bs.map g = as.map g' := by
  induction as with
  | nil =>
    rw [List.mapM_nil]
    refine (keeps_pure ?_).mono ?_
    · rfl
    · rintro n ⟨a, ha, -⟩
      cases ha
  | cons a as ih =>
    rw [List.mapM_cons]
    refine ((hf a).bind fun b hb => ih.andKeep fun bs hbs => keeps_pure ?_).mono ?_
    · rw [List.map_cons, List.map_cons, hb, hbs]
    · rintro n ⟨c, hc, hn⟩
      rcases List.mem_cons.1 hc with rfl | hc
      · exact .inl hn
      · exact .inr ⟨c, hc, hn⟩

theorem keeps_mapM {f : α → Checker β} {g : β → γ} {g' : α → γ}
    (hf : ∀ a, (f a).Keeps fun b => g b = g' a) (as : List α) :
    (as.mapM f).Keeps fun bs => bs.map g = as.map g' :=
  (finds_mapM hf as).mono fun _ hn => hn.elim

end Checker

open Checker

/-! ### Expressions -/

theorem mem_union {a b : List String} {n : String} : n ∈ union a b ↔ n ∈ a ∨ n ∈ b := by
  unfold union
  rw [List.mem_append, List.mem_filter]
  by_cases hn : n ∈ a <;> simp [hn]

/-- What a body looks up when it begins is found when it is entered. -/
theorem finds_enter (scope : Scope) : (enter scope).Finds (· ∈ scope.lookups) fun _ => True := by
  cases scope with
  | nil => exact (keeps_pure trivial).mono fun _ hn => nomatch hn
  | cons l outer =>
    intro s a s' h
    cases h
    refine ⟨trivial, fun n hn => mem_union.2 (.inl hn), fun n hn => ?_⟩
    obtain ⟨⟨name, source⟩, hentry, hname⟩ := List.mem_filterMap.1 hn
    dsimp only at hname
    split at hname
    · next hdata =>
      cases hname
      -- the walk leaves out the names that every template knows
      by_cases hglobal : n ∈ globalNames
      · exact .inr hglobal
      · refine .inl (mem_union.2 (.inr (List.mem_filterMap.2 ⟨_, hentry, ?_⟩)))
        simp [hdata, hglobal]
    · cases hname

theorem Mention.keeps_check (m : Mention) : m.check.Keeps fun _ => True := by
  cases m with
  | name => exact keeps_pure trivial
  | integer n => exact keeps_computed.bind fun _ _ => keeps_pure trivial
  | filter =>
    unfold Mention.check
    dsimp only
    split
    · exact finds_refuse _ _
    · exact keeps_pure trivial
  | test =>
    unfold Mention.check
    dsimp only
    split
    · exact finds_refuse _ _
    · exact keeps_pure trivial

theorem Expr.keeps_checkMentions (p : Place) (e : Expr) : (e.checkMentions p).Keeps fun _ => True :=
  keeps_forM Mention.keeps_check _

theorem Expr.keeps_check (p : Place) (e : Expr) : (e.check p).Keeps fun e' => e'.names = e.names :=
  keeps_computed.bind fun e' he => (Expr.keeps_checkMentions p e').bind fun _ _ =>
    keeps_pure (Expr.names_settled he)

theorem keeps_checkSome (p : Place) (e : Option Expr) :
    (checkSome p e).Keeps fun e' => e'.map Expr.names = e.map Expr.names := by
  cases e with
  | none => exact keeps_pure rfl
  | some e =>
    refine (e.keeps_check p).bind fun e' he => keeps_pure ?_
    rw [Option.map_some, Option.map_some, he]

theorem Piece.keeps_check (p : Place) (piece : Piece) :
    (piece.check p).Keeps fun piece' => piece'.names = piece.names := by
  refine keeps_computed.bind fun piece' h => ?_
  have hnames := Piece.names_settled h
  split
  · exact (Expr.keeps_checkMentions p _).bind fun _ _ => keeps_pure hnames
  · exact keeps_pure hnames

theorem keeps_checkParameters (p : Place) (parameters : List Parameter) :
    (checkParameters p parameters).Keeps fun parameters' =>
      parameters'.map Parameter.outline = parameters.map Parameter.outline := by
  refine keeps_mapM (fun q => ?_) parameters
  refine (keeps_checkSome p q.fallback).bind fun fallback h => keeps_pure ?_
  unfold Parameter.outline
  rw [h]

/-! ### Statements -/

/-- A name that a closed body looks up in the bodies inside of it. -/
def ToFind (scope : Scope) (body : List Stmt) (n : String) : Prop :=
  IsClosed body ∧ n ∈ lookupsOf scope body

/-- A closed body looks its names up when it begins or inside of it. -/
theorem toFind_of_mem {scope : Scope} {body : List Stmt} (h : IsClosed body) {n : String}
    (hn : n ∈ bodyLookups scope body) : n ∈ scope.lookups ∨ ToFind scope body n :=
  (List.mem_append.1 hn).imp_right fun hn => ⟨h, hn⟩

/-- A checked statement is alike, and what follows a closed one is reached. -/
def Stmt.Passes (s : Stmt) (r : Stmt × Bool) : Prop :=
  s.Alike r.1 ∧ (s.refers = false → r.2 = true)

theorem Stmt.Alike.passes {s s' : Stmt} (h : s.Alike s') : s.Passes (s', true) := ⟨h, fun _ => rfl⟩

/-- The check of a loop, if those of its bodies find what they should. -/
theorem Stmt.finds_check_loop (p : Place) {body otherwise : List Stmt}
    (hbody : ∀ q : Place, (checkAll q body).Finds (ToFind q.scope body) (Template.Alike body))
    (hotherwise : ∀ q : Place,
      (checkAll q otherwise).Finds (ToFind q.scope otherwise) (Template.Alike otherwise))
    (target : Target) (source : Expr) (test : Option Expr) (recursive : Bool) (line : Nat) :
    ((Stmt.loop target source body otherwise test recursive line).check p).Finds
      (fun n => (Stmt.loop target source body otherwise test recursive line).refers = false ∧
        n ∈ (Stmt.loop target source body otherwise test recursive line).lookups p.scope)
      (Stmt.loop target source body otherwise test recursive line).Passes := by
  unfold Stmt.check
  extract_lets -underBinder afterTest
  -- the condition is checked first, if there is one; the rest of the check is the same either way
  have hafter (test' : Option Expr) (htest : test'.map Expr.names = test.map Expr.names) :
      (afterTest test').Finds
        (fun n => n ∈ (p.scope.inLoop target body otherwise recursive).lookups ∨
          ToFind (p.scope.inLoop target body otherwise recursive) body n ∨
          IsClosed otherwise ∧ n ∈ bodyLookups (Scope.ofBody p.scope otherwise) otherwise)
        (Stmt.loop target source body otherwise test recursive line).Passes := by
    dsimp only [afterTest]
    refine finds_guard (Keeps.ite (P := fun e => e.names = source.names)
      (fun _ => keeps_pure rfl) (fun _ => source.keeps_check p) fun source' hsource => ?_)
    refine (finds_enter _).bind fun _ _ => (hbody _).bind fun body' hb => ?_
    -- the source of a recursive loop is checked last, that of any other before the bodies
    have hlast (otherwise' : List Stmt) (ho : Template.Alike otherwise otherwise') :
        (if recursive = true then do
            let e ← source'.check p
            pure (Stmt.loop target e body' otherwise' test' recursive line, true)
          else do
            let e ← pure source'
            pure (Stmt.loop target e body' otherwise' test' recursive line, true) :
          Checker (Stmt × Bool)).Keeps
        (Stmt.loop target source body otherwise test recursive line).Passes := by
      refine Keeps.ite (P := fun e => e.names = source.names)
        (fun _ => (source'.keeps_check p).imp fun e he => he.trans hsource)
        (fun _ => keeps_pure hsource) fun e he => keeps_pure ?_
      exact (Stmt.Alike.loop target recursive line he htest hb ho).passes
    split
    · next he =>
      rw [List.isEmpty_iff] at he
      subst he
      exact ((keeps_pure (.refl [])).bind hlast).mono fun n hn => nomatch hn.2
    · exact ((finds_enter _).bind fun _ _ => (hotherwise _).andKeep hlast).mono
        fun n hn => toFind_of_mem hn.1 hn.2
  have hnames {n : String}
      (hr : (Stmt.loop target source body otherwise test recursive line).refers = false)
      (hn : n ∈ (Stmt.loop target source body otherwise test recursive line).lookups p.scope) :
      n ∈ testLookups p.scope target test ∨
        n ∈ (p.scope.inLoop target body otherwise recursive).lookups ∨
        ToFind (p.scope.inLoop target body otherwise recursive) body n ∨
        IsClosed otherwise ∧ n ∈ bodyLookups (Scope.ofBody p.scope otherwise) otherwise := by
    obtain ⟨hb, ho⟩ := Bool.or_eq_false_iff.1 hr
    rcases List.mem_append.1 hn with hn | hn
    · exact (List.mem_append.1 hn).imp_right fun hn =>
        or_assoc.1 (.inl (toFind_of_mem hb hn))
    · exact .inr (.inr (.inr ⟨ho, hn⟩))
  cases test with
  | none =>
    refine ((keeps_pure rfl).bind fun e he => hafter e (he ▸ rfl)).mono ?_
    exact fun n hn => (hnames hn.1 hn.2).resolve_left fun h => nomatch h
  | some t =>
    refine ((finds_enter _).bind fun _ _ => (t.keeps_check _).bind fun t' ht =>
      (keeps_pure rfl).bind fun e he => hafter e ?_).mono fun n hn => hnames hn.1 hn.2
    rw [← he, Option.map_some, Option.map_some, ht]

mutual

theorem Stmt.finds_check (p : Place) : ∀ s : Stmt,
    (s.check p).Finds (fun n => s.refers = false ∧ n ∈ s.lookups p.scope) s.Passes
  | .output pieces => by
    have hkeeps : ((Stmt.output pieces).check p).Keeps (Stmt.output pieces).Passes := by
      unfold Stmt.check
      refine keeps_get.bind fun _ _ => ?_
      split
      · exact keeps_pure (Stmt.Alike.refl _).passes
      · exact (keeps_mapM (Piece.keeps_check p) pieces).bind fun _ h =>
          keeps_pure (Stmt.Alike.output (congrArg List.flatten h)).passes
    exact hkeeps.mono fun n hn => nomatch hn.2
  | .loop target source body otherwise test recursive line =>
    Stmt.finds_check_loop p (fun q => finds_checkAll q body) (fun q => finds_checkAll q otherwise)
      target source test recursive line
  | .branch test body more otherwise => by
    unfold Stmt.check
    refine ((Expr.keeps_check _ test).bind fun test' htest =>
      (finds_checkAll p.inBranch body).bind fun body' hbody =>
      (finds_checkMore p.inBranch more).bind fun more' hmore =>
      (finds_checkAll p.inBranch otherwise).andKeep fun otherwise' hotherwise =>
      keeps_pure (Stmt.Alike.branch htest hbody hmore hotherwise).passes).mono ?_
    rintro n ⟨hr, hn⟩
    obtain ⟨hr, ho⟩ := Bool.or_eq_false_iff.1 hr
    obtain ⟨hb, hm⟩ := Bool.or_eq_false_iff.1 hr
    rcases List.mem_append.1 hn with hn | hn
    · rcases List.mem_append.1 hn with hn | hn
      · exact .inl ⟨hb, hn⟩
      · exact .inr (.inl ⟨hm, hn⟩)
    · exact .inr (.inr ⟨ho, hn⟩)
  | .assign target e => by
    unfold Stmt.check
    exact ((e.keeps_check p).bind fun e' he =>
      keeps_pure (Stmt.Alike.assign target he).passes).mono fun n hn => nomatch hn.2
  | .capture target filter body => by
    unfold Stmt.check
    exact ((finds_enter _).bind fun _ _ => (finds_checkAll _ body).andKeep fun body' hbody =>
      (keeps_checkSome _ filter).bind fun filter' hfilter =>
      keeps_pure (Stmt.Alike.capture target hfilter hbody).passes).mono
        fun n hn => toFind_of_mem hn.1 hn.2
  | .bind bindings body => by
    have hkeeps : (bindings.mapM fun (target, e) => return (target, ← e.check p) :
        Checker (List (Target × Expr))).Keeps fun bindings' =>
          bindings'.map (fun b => (b.1, b.2.names)) = bindings.map fun b => (b.1, b.2.names) := by
      refine keeps_mapM (fun (target, e) => ?_) bindings
      refine (e.keeps_check p).bind fun e' he => keeps_pure ?_
      rw [he]
    unfold Stmt.check
    exact ((finds_enter _).bind fun _ _ => hkeeps.bind fun bindings' hbindings =>
      (finds_checkAll _ body).andKeep fun body' hbody =>
      keeps_pure (Stmt.Alike.bind hbindings hbody).passes).mono fun n hn => toFind_of_mem hn.1 hn.2
  | .scope body => by
    unfold Stmt.check
    exact ((finds_enter _).bind fun _ _ => (finds_checkAll _ body).andKeep fun body' hbody =>
      keeps_pure (Stmt.Alike.scope hbody).passes).mono fun n hn => toFind_of_mem hn.1 hn.2
  | .macroDef name parameters body line => by
    unfold Stmt.check
    exact finds_guard (((finds_enter _).bind fun _ _ =>
      (keeps_checkParameters _ parameters).bind fun parameters' hparameters =>
      (finds_checkAll _ body).andKeep fun body' hbody =>
      keeps_pure (Stmt.Alike.macroDef hparameters hbody name line).passes).mono
        fun n hn => toFind_of_mem hn.1 hn.2)
  | .callBlock call parameters body line => by
    unfold Stmt.check
    exact finds_guard (((finds_enter _).bind fun _ _ =>
      (keeps_checkParameters _ parameters).bind fun parameters' hparameters =>
      (finds_checkAll _ body).andKeep fun body' hbody =>
      (call.keeps_check p).bind fun call' hcall =>
      keeps_pure (Stmt.Alike.callBlock hparameters hbody hcall line).passes).mono
        fun n hn => toFind_of_mem hn.1 hn.2)
  | .filterBlock filter body => by
    unfold Stmt.check
    exact ((finds_enter _).bind fun _ _ => (finds_checkAll _ body).andKeep fun body' hbody =>
      (filter.keeps_check _).bind fun filter' hfilter =>
      keeps_pure (Stmt.Alike.filterBlock hfilter hbody).passes).mono
        fun n hn => toFind_of_mem hn.1 hn.2
  | .block name body isScoped required line => by
    unfold Stmt.check
    exact (keeps_pure (Stmt.Alike.refl _).passes).mono fun n hn => nomatch hn.2
  | .extend e line => by
    have hkeeps : ((Stmt.extend e line).check p).Keeps (Stmt.extend e line).Passes := by
      unfold Stmt.check
      refine finds_guard (keeps_get.bind fun s _ => ?_)
      split
      · exact keeps_pure ⟨.refl _, fun h => nomatch h⟩
      · refine (e.keeps_check p).bind fun e' he => Keeps.bind (P := fun _ => True) ?_ fun _ _ =>
          keeps_pure (Stmt.Alike.extend he line).passes
        exact keeps_modify fun _ => rfl
    exact hkeeps.mono fun n hn => nomatch hn.2
  | .insert e ignoreMissing withContext => by
    unfold Stmt.check
    exact ((e.keeps_check p).bind fun e' he =>
      keeps_pure (Stmt.Alike.insert he _ _).passes).mono fun n hn => nomatch hn.2
  | .importAs e name withContext => by
    unfold Stmt.check
    exact ((e.keeps_check p).bind fun e' he =>
      keeps_pure (Stmt.Alike.importAs he _ _).passes).mono fun n hn => nomatch hn.2
  | .importFrom e names withContext line => by
    unfold Stmt.check
    exact ((e.keeps_check p).bind fun e' he =>
      keeps_pure (Stmt.Alike.importFrom he _ _ _).passes).mono fun n hn => nomatch hn.2

theorem finds_checkAll (p : Place) : ∀ body : List Stmt,
    (checkAll p body).Finds (ToFind p.scope body) (Template.Alike body)
  | [] => by
    unfold checkAll
    exact (keeps_pure (.refl [])).mono fun n hn => nomatch hn.2
  | s :: ss => by
    have hrest (r : Stmt × Bool) (hr : s.Passes r) :
        (do return r.1 :: (← if r.2 then checkAll p ss else pure ss) : Checker (List Stmt)).Finds
          (fun n => s.refers = false ∧ ToFind p.scope ss n) (Template.Alike (s :: ss)) := by
      obtain ⟨s', goesOn⟩ := r
      -- the check only stops where a template is extended, and then the body is not closed
      cases goesOn with
      | true =>
        exact ((finds_checkAll p ss).andKeep fun ss' hss => keeps_pure (.cons hr.1 hss)).mono
          fun n hn => hn.2
      | false =>
        exact (keeps_pure (.cons hr.1 (.refl ss))).mono fun n hn => nomatch hr.2 hn.1
    unfold checkAll
    refine ((s.finds_check p).bind hrest).mono ?_
    rintro n ⟨h, hn⟩
    obtain ⟨hs, hss⟩ := Bool.or_eq_false_iff.1 h
    exact (List.mem_append.1 hn).imp (fun hn => ⟨hs, hn⟩) fun hn => ⟨hs, hss, hn⟩

theorem finds_checkMore (p : Place) : ∀ more : List (Expr × List Stmt),
    (checkMore p more).Finds
      (fun n => refersAnyMore more = false ∧ n ∈ lookupsOfMore p.scope more) (AlikeMore more)
  | [] => by
    unfold checkMore
    exact (keeps_pure .nil).mono fun n hn => nomatch hn.2
  | (test, body) :: rest => by
    unfold checkMore
    refine ((test.keeps_check p).bind fun test' htest =>
      (finds_checkAll p body).bind fun body' hbody =>
      (finds_checkMore p rest).andKeep fun rest' hrest =>
      keeps_pure (.cons htest hbody hrest)).mono ?_
    rintro n ⟨hr, hn⟩
    obtain ⟨hb, hr⟩ := Bool.or_eq_false_iff.1 hr
    exact (List.mem_append.1 hn).imp (fun hn => ⟨hb, hn⟩) fun hn => ⟨hr, hn⟩

end

/-! ### Templates -/

/-- The names that the template of these statements looks up. -/
def templateLookups (body : List Stmt) : List String :=
  bodyLookups (Scope.ofTemplate body) body ++ (blocksOf body).flatMap Block.lookups

/-- The template of these statements refers to no other. -/
structure IsClosedTemplate (statements : List Stmt) : Prop where
  body : IsClosed statements
  blocks : ∀ b ∈ blocksOf statements, IsClosed b.body

/-- What is known of the names of a block. -/
def Block.outline (b : Block) : List String × Bool := (b.lookups, refersAny b.body)

section
variable {body body' : List Stmt} (h : Alike body body')

include h

theorem Alike.bodyLookups_ofTemplate : bodyLookups (Scope.ofTemplate body') body' =
    bodyLookups (Scope.ofTemplate body) body := by
  unfold bodyLookups
  rw [h.ofTemplate_eq, h.lookups]

theorem Alike.bodyLookups_ofBlock : bodyLookups (Scope.ofBlock body') body' =
    bodyLookups (Scope.ofBlock body) body := by
  unfold bodyLookups
  rw [h.ofBlock_eq, h.lookups]

theorem Alike.templateLookups_eq : templateLookups body' = templateLookups body := by
  unfold templateLookups
  rw [h.bodyLookups_ofTemplate, h.blocks]

theorem Alike.isClosedTemplate_iff : IsClosedTemplate body' ↔ IsClosedTemplate body := by
  have hblocks := h.blocks
  constructor
  · exact fun hc => ⟨h.isClosed_iff.1 hc.body, hblocks ▸ hc.blocks⟩
  · exact fun hc => ⟨h.isClosed_iff.2 hc.body, hblocks ▸ hc.blocks⟩

end

theorem keeps_checkBlockNames (seen : List String) (blocks : List Block) :
    (checkBlockNames seen blocks).Keeps fun _ => True := by
  induction blocks generalizing seen with
  | nil => exact keeps_pure trivial
  | cons b blocks ih =>
    unfold checkBlockNames
    exact finds_guard (ih _)

theorem Block.finds_check (lenient : Bool) (b : Block) :
    (b.check lenient).Finds (fun n => Template.IsClosed b.body ∧ n ∈ b.lookups)
      fun b' => b'.outline = b.outline := by
  unfold Block.check
  refine ((finds_enter _).bind fun _ _ => (finds_checkAll _ b.body).andKeep fun body' h =>
    keeps_pure ?_).mono fun n hn => toFind_of_mem hn.1 hn.2
  unfold Block.outline Block.lookups
  rw [h.bodyLookups_ofBlock, h.refers]

/-- The check of a template that refers to no other finds what its bodies and blocks look up. -/
theorem finds_check (lenient : Bool) (body : List Stmt) :
    (check lenient body).Finds (fun n => IsClosedTemplate body ∧ n ∈ templateLookups body)
      fun r => Alike body r.1 ∧ r.2.map Block.outline = (blocksOf body).map Block.outline := by
  unfold check
  refine ((keeps_checkBlockNames [] (blocksOf body)).bind fun _ _ => (finds_enter _).bind fun _ _ =>
    (finds_checkAll _ body).bind fun body' h =>
    (finds_mapM (Block.finds_check lenient) (blocksOf body)).andKeep fun blocks' hblocks =>
    keeps_pure ⟨h, hblocks⟩).mono ?_
  rintro n ⟨hc, hn⟩
  rcases List.mem_append.1 hn with hn | hn
  · exact or_assoc.1 (.inl (toFind_of_mem hc.body hn))
  · obtain ⟨b, hb, hn⟩ := List.mem_flatMap.1 hn
    exact .inr (.inr ⟨b, hb, hc.blocks b hb, hn⟩)

/-- What the check leaves of a template. -/
structure Compiled.IsOf (t : Compiled) (body : List Stmt) : Prop where
  lookups : t.lookups = templateLookups body
  closed : t.IsClosed ↔ IsClosedTemplate body
  found (hc : IsClosedTemplate body) : ∀ n ∈ templateLookups body, n ∈ t.needed ∨ n ∈ globalNames

/-- A compiled template looks up the names of its statements, and those that not every template
knows are needed. -/
theorem exists_isOf_of_compile {purpose : Purpose} {source : List Char} {t : Compiled}
    (h : compile purpose source = .ok t) :
    ∃ body, parse (purpose = .rendering) source = .ok body ∧ t.IsOf body := by
  obtain ⟨body, hparse, h⟩ := Outcome.bind_eq_ok.1 h
  obtain ⟨⟨⟨body', blocks'⟩, found⟩, hcheck, h⟩ := Outcome.bind_eq_ok.1 h
  cases h
  obtain ⟨⟨halike, hblocks⟩, -, hfound⟩ := finds_check _ body {} _ found hcheck
  refine ⟨body, hparse, ⟨?_, ?_, fun hc n hn => hfound n ⟨hc, hn⟩⟩⟩
  · have hlookups := congrArg (List.flatMap Prod.fst) hblocks
    rw [List.flatMap_map, List.flatMap_map] at hlookups
    unfold Compiled.lookups templateLookups
    rw [halike.bodyLookups_ofTemplate]
    exact congrArg _ hlookups
  · have hrefers : (∀ b ∈ blocks', IsClosed b.body) ↔ ∀ b ∈ blocksOf body, IsClosed b.body := by
      have hall (bs : List Block) : (∀ b ∈ bs, IsClosed b.body) ↔
          ∀ o ∈ bs.map Block.outline, o.2 = false := by
        rw [List.forall_mem_map]
        rfl
      rw [hall, hall, hblocks]
    constructor
    · exact fun hc => ⟨halike.isClosed_iff.1 hc.body, hrefers.1 hc.blocks⟩
    · exact fun hc => ⟨halike.isClosed_iff.2 hc.body, hrefers.2 hc.blocks⟩

end ApiScribe.Template
