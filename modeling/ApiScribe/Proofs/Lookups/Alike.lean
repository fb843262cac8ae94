import ApiScribe.Proofs.Closed.Basic
import ApiScribe.Proofs.Lookups.Settled

/-!
# Code that mentions the same names

Which names code looks up depends on the names that its expressions mention, not on the rest of the
expressions nor on the texts between tags.  Two bodies are alike if nothing that is found out about
their names tells them apart; statements of the same form are alike if their parts are.
-/

namespace ApiScribe.Template

attribute [local simp] Stmt.declare Stmt.uses Stmt.blocks Stmt.refers Stmt.lookups

/-- Two bodies mention the same names in the same places. -/
structure Alike (body body' : List Stmt) : Prop where
  declare (outer : Scope) (l : Layer) : declareAll outer l body' = declareAll outer l body
  uses : usesOf body' = usesOf body
  blocks : blocksOf body' = blocksOf body
  refers : refersAny body' = refersAny body
  lookups (scope : Scope) : lookupsOf scope body' = lookupsOf scope body

/-- Two statements mention the same names in the same places. -/
structure Stmt.Alike (s s' : Stmt) : Prop where
  declare (outer : Scope) (l : Layer) : s'.declare outer l = s.declare outer l
  uses : s'.uses = s.uses
  blocks : s'.blocks = s.blocks
  refers : s'.refers = s.refers
  lookups (scope : Scope) : s'.lookups scope = s.lookups scope

/-- Further branches mention the same names in the same places. -/
structure AlikeMore (more more' : List (Expr × List Stmt)) : Prop where
  declare (outer : Scope) (l : Layer) : declareMore outer l more' = declareMore outer l more
  uses : usesOfMore more' = usesOfMore more
  blocks : blocksOfMore more' = blocksOfMore more
  refers : refersAnyMore more' = refersAnyMore more
  lookups (scope : Scope) : lookupsOfMore scope more' = lookupsOfMore scope more

/-- Lists that agree in a part of their items agree in every list made of that part. -/
theorem flatMap_eq_of_map_eq {α β γ : Type} {f : α → β} {l l' : List α}
    (h : l'.map f = l.map f) (g : β → List γ) :
    l'.flatMap (fun x => g (f x)) = l.flatMap fun x => g (f x) := by
  have h := congrArg (List.flatMap g) h
  rwa [List.flatMap_map, List.flatMap_map] at h

theorem Stmt.Alike.refl (s : Stmt) : s.Alike s :=
  ⟨fun _ _ => rfl, rfl, rfl, rfl, fun _ => rfl⟩

namespace Alike

variable {body body' : List Stmt}

theorem refl (body : List Stmt) : Alike body body :=
  ⟨fun _ _ => rfl, rfl, rfl, rfl, fun _ => rfl⟩

theorem symm (h : Alike body body') : Alike body' body where
  declare outer l := (h.declare outer l).symm
  uses := h.uses.symm
  blocks := h.blocks.symm
  refers := h.refers.symm
  lookups scope := (h.lookups scope).symm

theorem cons {s s' : Stmt} (hs : s.Alike s') (h : Alike body body') :
    Alike (s :: body) (s' :: body') where
  declare outer l := by rw [declareAll, declareAll, hs.declare, h.declare]
  uses := by rw [usesOf, usesOf, hs.uses, h.uses]
  blocks := by rw [blocksOf, blocksOf, hs.blocks, h.blocks]
  refers := by rw [refersAny, refersAny, hs.refers, h.refers]
  lookups scope := by rw [lookupsOf, lookupsOf, hs.lookups, h.lookups]

section
variable (h : Alike body body')

include h

theorem isClosed_iff : IsClosed body' ↔ IsClosed body := by rw [IsClosed, IsClosed, h.refers]

/-! ### Scopes of bodies that are alike -/

theorem ofBody_eq (outer : Scope) : Scope.ofBody outer body' = Scope.ofBody outer body := by
  unfold Scope.ofBody
  rw [h.declare]

theorem ofTemplate_eq : Scope.ofTemplate body' = Scope.ofTemplate body := by
  unfold Scope.ofTemplate
  dsimp only
  rw [h.uses, h.declare]

theorem ofBlock_eq : Scope.ofBlock body' = Scope.ofBlock body := by
  unfold Scope.ofBlock
  dsimp only
  rw [h.uses, h.declare]

theorem ofBindings_eq (outer : Scope) {bindings bindings' : List (Target × Expr)}
    (hbindings : bindings'.map (·.1) = bindings.map (·.1)) :
    Scope.ofBindings outer bindings' body' = Scope.ofBindings outer bindings body := by
  have htargets : bindings'.flatMap (·.1.names) = bindings.flatMap (·.1.names) :=
    flatMap_eq_of_map_eq hbindings Target.names
  unfold Scope.ofBindings
  rw [h.declare, htargets]

theorem ofFiltered_eq (outer : Scope) {filter filter' : Expr} (hf : filter'.names = filter.names) :
    Scope.ofFiltered outer filter' body' = Scope.ofFiltered outer filter body := by
  unfold Scope.ofFiltered
  rw [h.declare, hf]

theorem inLoop_eq {otherwise otherwise' : List Stmt} (ho : Alike otherwise otherwise')
    (outer : Scope) (target : Target) (recursive : Bool) :
    outer.inLoop target body' otherwise' recursive =
      outer.inLoop target body otherwise recursive := by
  unfold Scope.inLoop Scope.hasLoopVariable Scope.ofLoop
  dsimp only
  rw [h.uses, h.blocks, ho.blocks, h.declare]

end
end Alike

/-! ### Parameters -/

/-- The names of a parameter and of what it falls back on. -/
def Parameter.outline (p : Parameter) : String × Option (List String) :=
  (p.name, p.fallback.map Expr.names)

section
variable {parameters parameters' : List Parameter}
  (hp : parameters'.map Parameter.outline = parameters.map Parameter.outline)

include hp

theorem map_name_eq : parameters'.map (·.name) = parameters.map (·.name) := by
  have h := congrArg (List.map Prod.fst) hp
  rwa [List.map_map, List.map_map] at h

theorem flatMap_fallback_eq : parameters'.flatMap (fun p => namesOf? p.fallback) =
    parameters.flatMap (fun p => namesOf? p.fallback) :=
  flatMap_eq_of_map_eq hp fun o : String × Option (List String) => o.2.getD []

theorem parameterUses_eq : parameterUses parameters' = parameterUses parameters := by
  have hnames := congrArg (List.map Use.parameter) (map_name_eq hp)
  have hfallbacks := congrArg (List.map Use.read) (flatMap_fallback_eq hp)
  rw [List.map_map, List.map_map] at hnames
  rw [List.map_flatMap, List.map_flatMap] at hfallbacks
  unfold parameterUses
  exact congr (congrArg (· ++ ·) hnames) hfallbacks

theorem Alike.ofMacro_eq {body body' : List Stmt} (h : Alike body body') (outer : Scope) :
    Scope.ofMacro outer parameters' body' = Scope.ofMacro outer parameters body := by
  have hextras : Scope.macroExtras parameters' body' = Scope.macroExtras parameters body := by
    have hany (ps : List Parameter) (name : String) :
        ps.any (·.name == name) = (ps.map (·.name)).any (· == name) := by
      rw [List.any_map]
      rfl
    unfold Scope.macroExtras
    simp only [h.uses, hany, map_name_eq hp]
  unfold Scope.ofMacro
  dsimp only
  rw [map_name_eq hp, flatMap_fallback_eq hp, h.declare, hextras]

end

/-! ### Statements of the same form -/

theorem Piece.flatMap_names (ps : List Piece) :
    (ps.filterMap Piece.expr?).flatMap Expr.names = ps.flatMap Piece.names := by
  induction ps with
  | nil => rfl
  | cons p ps ih =>
    rw [List.flatMap_cons, ← ih]
    cases p <;> rfl

theorem Piece.flatMap_uses (ps : List Piece) :
    (ps.filterMap Piece.expr?).flatMap Expr.uses = (ps.flatMap Piece.names).map .read := by
  rw [← Piece.flatMap_names, List.map_flatMap]
  rfl

namespace Stmt.Alike

variable {body body' otherwise otherwise' : List Stmt}

theorem output {pieces pieces' : List Piece}
    (h : pieces'.flatMap Piece.names = pieces.flatMap Piece.names) :
    (Stmt.output pieces).Alike (.output pieces') := by
  refine ⟨fun outer l => ?_, ?_, rfl, rfl, fun _ => rfl⟩
  · rw [Stmt.declare, Stmt.declare, Piece.flatMap_names, Piece.flatMap_names, h]
  · rw [Stmt.uses, Stmt.uses, Piece.flatMap_uses, Piece.flatMap_uses, h]

theorem loop {source source' : Expr} {test test' : Option Expr} (target : Target)
    (recursive : Bool) (line : Nat) (hsource : source'.names = source.names)
    (htest : test'.map Expr.names = test.map Expr.names) (hb : Template.Alike body body')
    (ho : Template.Alike otherwise otherwise') :
    (Stmt.loop target source body otherwise test recursive line).Alike
      (.loop target source' body' otherwise' test' recursive line) := by
  have hnames : namesOf? test' = namesOf? test := congrArg (Option.getD · []) htest
  -- The test of a loop is read in a scope of its own, which only a loop with a test has.
  have hlookups (scope : Scope) :
      testLookups scope target test' = testLookups scope target test := by
    cases test with
    | none =>
      cases test' with
      | none => rfl
      | some t' => cases htest
    | some t =>
      cases test' with
      | none => cases htest
      | some t' =>
        unfold testLookups Scope.ofTest
        dsimp only
        rw [hnames]
  refine ⟨fun outer l => ?_, ?_, ?_, ?_, fun scope => ?_⟩
  · rw [Stmt.declare, Stmt.declare, hsource]
  · simp only [Stmt.uses, Expr.uses, hsource, hb.uses, ho.uses, hnames]
  · rw [Stmt.blocks, Stmt.blocks, hb.blocks, ho.blocks]
  · rw [Stmt.refers, Stmt.refers, hb.refers, ho.refers]
  · simp only [Stmt.lookups, hlookups, hb.inLoop_eq ho, hb.lookups, ho.ofBody_eq, ho.lookups]

theorem branch {test test' : Expr} {more more' : List (Expr × List Stmt)}
    (htest : test'.names = test.names) (hb : Template.Alike body body')
    (hm : AlikeMore more more') (ho : Template.Alike otherwise otherwise') :
    (Stmt.branch test body more otherwise).Alike (.branch test' body' more' otherwise') where
  declare outer l := by
    rw [Stmt.declare, Stmt.declare, htest, hb.declare, hm.declare, ho.declare]
  uses := by simp only [Stmt.uses, Expr.uses, htest, hb.uses, hm.uses, ho.uses]
  blocks := by rw [Stmt.blocks, Stmt.blocks, hb.blocks, hm.blocks, ho.blocks]
  refers := by rw [Stmt.refers, Stmt.refers, hb.refers, hm.refers, ho.refers]
  lookups scope := by rw [Stmt.lookups, Stmt.lookups, hb.lookups, hm.lookups, ho.lookups]

theorem assign {e e' : Expr} (target : Target) (he : e'.names = e.names) :
    (Stmt.assign target e).Alike (.assign target e') where
  declare outer l := by rw [Stmt.declare, Stmt.declare, he]
  uses := by simp only [Stmt.uses, Expr.uses, he]
  blocks := rfl
  refers := rfl
  lookups _ := rfl

theorem capture {filter filter' : Option Expr} (target : Target)
    (hf : filter'.map Expr.names = filter.map Expr.names) (hb : Template.Alike body body') :
    (Stmt.capture target filter body).Alike (.capture target filter' body') where
  declare outer l := rfl
  uses := by simp only [Stmt.uses, namesOf?, hf, hb.uses]
  blocks := hb.blocks
  refers := hb.refers
  lookups scope := by rw [Stmt.lookups, Stmt.lookups, hb.ofBody_eq, hb.lookups]

theorem bind {bindings bindings' : List (Target × Expr)}
    (h : bindings'.map (fun b => (b.1, b.2.names)) = bindings.map fun b => (b.1, b.2.names))
    (hb : Template.Alike body body') :
    (Stmt.bind bindings body).Alike (.bind bindings' body') := by
  have htargets : bindings'.map (·.1) = bindings.map (·.1) := by
    have h := congrArg (List.map Prod.fst) h
    rwa [List.map_map, List.map_map] at h
  have hnames : bindings'.flatMap (·.2.names) = bindings.flatMap (·.2.names) :=
    flatMap_eq_of_map_eq h fun o : Target × List String => o.2
  have hparameters : bindings'.flatMap (fun b => b.1.names.map Use.parameter) =
      bindings.flatMap (fun b => b.1.names.map Use.parameter) :=
    flatMap_eq_of_map_eq htargets fun t : Target => t.names.map Use.parameter
  have huses : bindings'.flatMap (fun b => b.2.uses) = bindings.flatMap (fun b => b.2.uses) :=
    flatMap_eq_of_map_eq h fun o : Target × List String => o.2.map Use.read
  refine ⟨fun outer l => ?_, ?_, hb.blocks, hb.refers, fun scope => ?_⟩
  · rw [Stmt.declare, Stmt.declare, hnames]
  · rw [Stmt.uses, Stmt.uses, hparameters, huses, hb.uses]
  · rw [Stmt.lookups, Stmt.lookups, hb.ofBindings_eq scope htargets, hb.lookups]

theorem scope (hb : Template.Alike body body') : (Stmt.scope body).Alike (.scope body') where
  declare outer l := rfl
  uses := hb.uses
  blocks := hb.blocks
  refers := hb.refers
  lookups scope := by rw [Stmt.lookups, Stmt.lookups, hb.ofBody_eq, hb.lookups]

section
variable {parameters parameters' : List Parameter}
  (hp : parameters'.map Parameter.outline = parameters.map Parameter.outline)
  (hb : Template.Alike body body')

include hp hb

theorem macroDef (name : String) (line : Nat) :
    (Stmt.macroDef name parameters body line).Alike (.macroDef name parameters' body' line) where
  declare outer l := rfl
  uses := by rw [Stmt.uses, Stmt.uses, parameterUses_eq hp, hb.uses]
  blocks := hb.blocks
  refers := hb.refers
  lookups scope := by rw [Stmt.lookups, Stmt.lookups, hb.ofMacro_eq hp, hb.lookups]

theorem callBlock {call call' : Expr} (hcall : call'.names = call.names) (line : Nat) :
    (Stmt.callBlock call parameters body line).Alike
      (.callBlock call' parameters' body' line) where
  declare outer l := by rw [Stmt.declare, Stmt.declare, hcall]
  uses := by simp only [Stmt.uses, Expr.uses, hcall, parameterUses_eq hp, hb.uses]
  blocks := hb.blocks
  refers := hb.refers
  lookups scope := by rw [Stmt.lookups, Stmt.lookups, hb.ofMacro_eq hp, hb.lookups]

end

theorem filterBlock {filter filter' : Expr} (hf : filter'.names = filter.names)
    (hb : Template.Alike body body') :
    (Stmt.filterBlock filter body).Alike (.filterBlock filter' body') where
  declare outer l := by rw [Stmt.declare, Stmt.declare, hf]
  uses := by simp only [Stmt.uses, Expr.uses, hf, hb.uses]
  blocks := hb.blocks
  refers := hb.refers
  lookups scope := by rw [Stmt.lookups, Stmt.lookups, hb.ofFiltered_eq scope hf, hb.lookups]

section
variable {e e' : Expr} (he : e'.names = e.names)

include he

theorem extend (line : Nat) : (Stmt.extend e line).Alike (.extend e' line) where
  declare outer l := by rw [Stmt.declare, Stmt.declare, he]
  uses := by simp only [Stmt.uses, Expr.uses, he]
  blocks := rfl
  refers := rfl
  lookups _ := rfl

theorem insert (ignoreMissing withContext : Bool) :
    (Stmt.insert e ignoreMissing withContext).Alike (.insert e' ignoreMissing withContext) where
  declare outer l := by rw [Stmt.declare, Stmt.declare, he]
  uses := by simp only [Stmt.uses, Expr.uses, he]
  blocks := rfl
  refers := rfl
  lookups _ := rfl

theorem importAs (name : String) (withContext : Bool) :
    (Stmt.importAs e name withContext).Alike (.importAs e' name withContext) where
  declare outer l := by rw [Stmt.declare, Stmt.declare, he]
  uses := by simp only [Stmt.uses, Expr.uses, he]
  blocks := rfl
  refers := rfl
  lookups _ := rfl

theorem importFrom (names : List (String × String)) (withContext : Bool) (line : Nat) :
    (Stmt.importFrom e names withContext line).Alike (.importFrom e' names withContext line) where
  declare outer l := by rw [Stmt.declare, Stmt.declare, he]
  uses := by simp only [Stmt.uses, Expr.uses, he]
  blocks := rfl
  refers := rfl
  lookups _ := rfl

end
end Stmt.Alike

namespace AlikeMore

theorem nil : AlikeMore [] [] := ⟨fun _ _ => rfl, rfl, rfl, rfl, fun _ => rfl⟩

theorem cons {test test' : Expr} {body body' : List Stmt} {more more' : List (Expr × List Stmt)}
    (htest : test'.names = test.names) (hb : Alike body body') (hm : AlikeMore more more') :
    AlikeMore ((test, body) :: more) ((test', body') :: more') where
  declare outer l := by simp only [declareMore, htest, hb.declare, hm.declare]
  uses := by simp only [usesOfMore, Expr.uses, htest, hb.uses, hm.uses]
  blocks := by rw [blocksOfMore, blocksOfMore, hb.blocks, hm.blocks]
  refers := by rw [refersAnyMore, refersAnyMore, hb.refers, hm.refers]
  lookups scope := by rw [lookupsOfMore, lookupsOfMore, hb.lookups, hm.lookups]

end AlikeMore
end ApiScribe.Template
