import ApiScribe.Outcome
import ApiScribe.Proofs.Closed.Lookups
import ApiScribe.Template.Render

/-!
# Computations that keep to one template

Code is closed if it includes, imports and extends no template and looks up known names only: a name
is known if all machines know the same about it, or if every context has a value of its own for it.
Running code can define macros and enter loops, and then the heap holds code; a heap is closed if
all code in it is.  A computation is closed if a closed heap stays closed and neither the templates
of the machine nor its further names matter: two machines that agree on closed heaps give the same
outcome and the same heap.

Computations that are put together from closed ones are closed, which is found by instances.  What
is read from a closed heap is closed code again; `Gives` says so where it is needed.
-/

namespace ApiScribe.Template

namespace Eval

/-! ### One step after another -/

section
variable {α β : Type} {x : Eval α} {m : Machine} {h h' : Heap}

theorem bind_of_ok {a : α} (hx : x m h = (.ok a, h')) (f : α → Eval β) :
    (x >>= f) m h = f a m h' :=
  Outcome.run_bind_of_ok hx fun a => f a m

theorem bind_of_error {fault : Fault} (hx : x m h = (.error fault, h')) (f : α → Eval β) :
    (x >>= f) m h = (.error fault, h') :=
  Outcome.run_bind_of_error hx fun a => f a m

theorem ok_of_bind_eq_ok {f : α → Eval β} {b : β} (h' : Heap) (hb : (x >>= f) m h = (.ok b, h')) :
    ∃ a g, x m h = (.ok a, g) ∧ f a m g = (.ok b, h') :=
  Outcome.run_bind_eq_ok.1 hb

end

end Eval

/-! ### Closed code -/

mutual

/-- The statement refers to a template, or one in it does.  Blocks are templates of their own and do
not count. -/
def Stmt.refers : Stmt → Bool
  | .loop _ _ body otherwise _ _ _ => refersAny body || refersAny otherwise
  | .branch _ body more otherwise => refersAny body || refersAnyMore more || refersAny otherwise
  | .capture _ _ body => refersAny body
  | .bind _ body => refersAny body
  | .scope body => refersAny body
  | .macroDef _ _ body _ => refersAny body
  | .callBlock _ _ body _ => refersAny body
  | .filterBlock _ body => refersAny body
  | .extend _ _ => true
  | .insert _ _ _ => true
  | .importAs _ _ _ => true
  | .importFrom _ _ _ _ => true
  | _ => false

@[inherit_doc Stmt.refers]
def refersAny : List Stmt → Bool
  | [] => false
  | s :: ss => s.refers || refersAny ss

@[inherit_doc Stmt.refers]
def refersAnyMore : List (Expr × List Stmt) → Bool
  | [] => false
  | (_, body) :: rest => refersAny body || refersAnyMore rest

end

/-- No statement of the body refers to a template. -/
def IsClosed (body : List Stmt) : Prop := refersAny body = false

/-- A template that includes, imports and extends no template. -/
structure Compiled.IsClosed (t : Compiled) : Prop where
  body : Template.IsClosed t.body
  blocks : ∀ b ∈ t.blocks, Template.IsClosed b.body

instance (t : Compiled) : Decidable t.IsClosed :=
  decidable_of_iff (refersAny t.body = false ∧ ∀ b ∈ t.blocks, refersAny b.body = false)
    ⟨fun h => ⟨h.1, h.2⟩, fun h => ⟨h.1, h.2⟩⟩

/-- The names that code may look up. -/
class Known where
  /-- All machines know the same about the name. -/
  shared : String → Prop
  /-- Every context has a value of its own for the name. -/
  given : String → Prop

variable [Known]

/-- All of the names are known. -/
def AllKnown (names : List String) : Prop := ∀ n ∈ names, Known.shared n ∨ Known.given n

theorem allKnown_nil : AllKnown [] := fun _ hn => nomatch hn

theorem allKnown_append {a b : List String} : AllKnown (a ++ b) ↔ AllKnown a ∧ AllKnown b :=
  List.forall_mem_append

/-- A body that is closed where it begins with the scope. -/
structure IsClosedIn (scope : Scope) (body : List Stmt) : Prop where
  closed : IsClosed body
  known : AllKnown (bodyLookups scope body)

namespace IsClosedIn

variable {scope : Scope} {body : List Stmt} (h : IsClosedIn scope body)

include h

/-- What the body looks up when it begins is known. -/
theorem layer : AllKnown scope.lookups := (allKnown_append.1 h.known).1

/-- What the bodies inside look up is known. -/
theorem inside : AllKnown (lookupsOf scope body) := (allKnown_append.1 h.known).2

end IsClosedIn

/-- The code of a loop is closed; `recursive` tells that it can be entered again. -/
structure Recursion.IsClosed (recursive : Bool) (r : Recursion) : Prop where
  body : IsClosedIn (r.frame.scope.inLoop r.target r.body r.otherwise recursive) r.body
  otherwise : IsClosedIn (Scope.ofBody r.frame.scope r.otherwise) r.otherwise
  test : AllKnown (testLookups r.frame.scope r.target r.test)

/-- A loop can only be entered again with closed code. -/
def LoopState.IsClosed (l : LoopState) : Prop := ∀ r ∈ l.recursion, r.IsClosed true

/-- The body of a macro is closed. -/
def Routine.IsClosed (r : Routine) : Prop :=
  IsClosedIn (Scope.ofMacro r.frame.scope r.parameters r.body) r.body

/-- The body of a block is closed. -/
def Block.IsClosed (b : Block) : Prop := IsClosedIn (Scope.ofBlock b.body) b.body

/-- All blocks of a context are closed, and it has the values that code may count on. -/
structure Context.IsClosed (c : Context) : Prop where
  blocks : ∀ entry ∈ c.blocks, ∀ b ∈ entry.2, b.block.IsClosed
  given : ∀ n, Known.given n → ((c.assigned.lookup n).or (c.given.lookup n)).isSome

/-- All code in a heap is closed, and nothing was imported or extended. -/
structure Heap.IsClosed (h : Heap) : Prop where
  routines : ∀ r ∈ h.routines, r.IsClosed
  loops : ∀ l ∈ h.loops, l.IsClosed
  contexts : ∀ c ∈ h.contexts, c.IsClosed
  activations : ∀ a ∈ h.activations, a.parent = none
  imported : h.imported = []

theorem Heap.IsClosed.empty : ({} : Heap).IsClosed where
  routines := by simp
  loops := by simp
  contexts := by simp
  activations := by simp
  imported := rfl

/-! ### Closed computations -/

/-- Two transitions do the same with a closed heap, which stays closed. -/
def Transition.Same {α : Type} (x y : Transition α) : Prop :=
  ∀ h : Heap, h.IsClosed → x h = y h ∧ (y h).2.IsClosed

/-- Two machines do the same with closed heaps and closed blocks, whatever their templates and their
further names are. -/
structure Machine.Agrees (m m' : Machine) : Prop where
  globals (name : String) (hn : Known.shared name) : m.globals name = m'.globals name
  call (v : Value) (args : Actuals) : (m.call v args).Same (m'.call v args)
  block (b : PlacedBlock) (context depth : Nat) (hb : b.block.IsClosed) :
    (m.block b context depth).Same (m'.block b context depth)
  pull (place : Nat) : (m.pull place).Same (m'.pull place)

namespace Eval

variable {α β : Type}

/-- A computation does the same on two machines. -/
def SameOn (m m' : Machine) (x : Eval α) : Prop := Transition.Same (x m) (x m')

/-- A computation does the same on all machines that agree. -/
class Closed (x : Eval α) : Prop where
  same {m m' : Machine} (hm : m.Agrees m') : SameOn m m' x

/-- From a closed heap a computation only gives values with a property. -/
def Gives (x : Eval α) (P : α → Prop) : Prop :=
  ∀ m h a h', Heap.IsClosed h → x m h = (.ok a, h') → P a

/-! ### Doing the same -/

section
variable {m m' : Machine}

/-- The second step may count on what is known of the value of the first. -/
theorem SameOn.bind_of_gives {x : Eval α} {f : α → Eval β} {P : α → Prop} (hx : SameOn m m' x)
    (hp : Gives x P) (hf : ∀ a, P a → SameOn m m' (f a)) : SameOn m m' (x >>= f) := by
  intro h hc
  obtain ⟨he, hc'⟩ := hx h hc
  -- both machines take the first step alike, so it is enough to look at one of them
  rcases hr : x m' h with ⟨fault | a, h'⟩
  · rw [bind_of_error hr, bind_of_error (he.trans hr)]
    rw [hr] at hc'
    exact ⟨rfl, hc'⟩
  · rw [bind_of_ok hr, bind_of_ok (he.trans hr)]
    rw [hr] at hc'
    exact hf a (hp m' h a h' hc hr) h' hc'

theorem SameOn.bind {x : Eval α} {f : α → Eval β} (hx : SameOn m m' x)
    (hf : ∀ a, SameOn m m' (f a)) : SameOn m m' (x >>= f) :=
  hx.bind_of_gives (P := fun _ => True) (fun _ _ _ _ _ _ => trivial) fun a _ => hf a

theorem SameOn.attempt {x : Eval α} (hx : SameOn m m' x) : SameOn m m' (attempt x) := by
  intro h hc
  obtain ⟨he, hc'⟩ := hx h hc
  unfold Eval.attempt
  rw [he]
  exact ⟨rfl, hc'⟩

theorem SameOn.within {x : Eval α} (hx : SameOn m m' x) (frames : Nat) :
    SameOn m m' (within frames x) := by
  intro h hc
  unfold Eval.within
  dsimp only
  split
  · exact ⟨rfl, hc⟩
  · obtain ⟨he, hc'⟩ := hx { h with depth := h.depth + frames } { hc with }
    rw [he]
    exact ⟨rfl, { hc' with }⟩

theorem SameOn.capture {x : Eval Unit} (hx : SameOn m m' x) : SameOn m m' (capture x) := by
  intro h hc
  obtain ⟨he, hc'⟩ := hx { h with printed := [] } { hc with }
  unfold Eval.capture
  dsimp only
  rw [he]
  exact ⟨rfl, { hc' with }⟩

end

theorem Closed.bind_of_gives {x : Eval α} {f : α → Eval β} {P : α → Prop} [hx : Closed x]
    (hp : Gives x P) (hf : ∀ a, P a → Closed (f a)) : Closed (x >>= f) :=
  ⟨fun hm => (hx.same hm).bind_of_gives hp fun a ha => (hf a ha).same hm⟩

theorem Closed.andThen {x : Eval α} {f : α → Eval β} (hx : Closed x) (hf : ∀ a, Closed (f a)) :
    Closed (x >>= f) :=
  ⟨fun hm => (hx.same hm).bind fun a => (hf a).same hm⟩

theorem Closed.bind {x : Eval α} {f : α → Eval β} [hx : Closed x] (hf : ∀ a, Closed (f a)) :
    Closed (x >>= f) :=
  hx.andThen hf

instance closed_bind (x : Eval α) (f : α → Eval β) [Closed x] [hf : ∀ a, Closed (f a)] :
    Closed (x >>= f) :=
  .bind hf

instance closed_ite (p : Prop) [Decidable p] (x y : Eval α) [Closed x] [Closed y] :
    Closed (if p then x else y) := by
  split
  · assumption
  · assumption

/-! ### Steps -/

instance closed_pure (a : α) : Closed (pure a : Eval α) := ⟨fun _ _ hc => ⟨rfl, hc⟩⟩

instance closed_throw (fault : Fault) : Closed (throw fault : Eval α) := ⟨fun _ _ hc => ⟨rfl, hc⟩⟩

instance closed_fail (kind : FaultKind) (message : String) : Closed (fail kind message : Eval α) :=
  closed_throw _

instance closed_get : Closed (get : Eval Heap) := ⟨fun _ _ hc => ⟨rfl, hc⟩⟩

instance closed_ofExcept (x : Except Fault α) : Closed (Eval.ofExcept x) :=
  ⟨fun _ _ hc => ⟨rfl, hc⟩⟩

instance closed_reading (f : Heap → Except Fault α) : Closed (reading f) :=
  ⟨fun _ _ hc => ⟨rfl, hc⟩⟩

theorem closed_making {f : Heap → α × Heap} (hf : ∀ h : Heap, h.IsClosed → (f h).2.IsClosed) :
    Closed (making f) :=
  ⟨fun _ h hc => ⟨rfl, hf h hc⟩⟩

theorem closed_modify {f : Heap → Heap} (hf : ∀ h : Heap, h.IsClosed → (f h).IsClosed) :
    Closed (modify f : Eval PUnit) :=
  ⟨fun _ h hc => ⟨rfl, hf h hc⟩⟩

instance closed_attempt (x : Eval α) [hx : Closed x] : Closed (attempt x) :=
  ⟨fun hm => (hx.same hm).attempt⟩

instance closed_within (frames : Nat) (x : Eval α) [hx : Closed x] : Closed (within frames x) :=
  ⟨fun hm => (hx.same hm).within frames⟩

instance closed_capture (x : Eval Unit) [hx : Closed x] : Closed (capture x) :=
  ⟨fun hm => (hx.same hm).capture⟩

instance closed_captureText (x : Eval Unit) [Closed x] : Closed (captureText x) := by
  unfold captureText
  infer_instance

instance closed_printAll (pieces : List Printed) : Closed (printAll pieces) :=
  closed_modify fun _ hc => { hc with }

instance closed_print (s : String) : Closed (print s) := closed_printAll _

/-! ### Steps for each item -/

theorem Closed.forIn {f : α → β → Eval (ForInStep β)} {as : List α}
    (hf : ∀ a ∈ as, ∀ b, Closed (f a b)) (b : β) : Closed (forIn as b f) := by
  induction as generalizing b with
  | nil =>
    rw [List.forIn_nil]
    infer_instance
  | cons a as ih =>
    rw [List.forIn_cons]
    refine .andThen (hf a List.mem_cons_self b) fun r => ?_
    cases r with
    | done b => exact closed_pure b
    | yield b => exact ih (fun a ha => hf a (List.mem_cons_of_mem _ ha)) b

theorem Closed.forM {f : α → Eval PUnit} (hf : ∀ a, Closed (f a)) (as : List α) :
    Closed (as.forM f) := by
  induction as with
  | nil => exact closed_pure _
  | cons a as ih => exact .bind fun _ => ih

theorem Closed.mapM {f : α → Eval β} (hf : ∀ a, Closed (f a)) (as : List α) :
    Closed (as.mapM f) := by
  induction as with
  | nil =>
    rw [List.mapM_nil]
    infer_instance
  | cons a as ih =>
    rw [List.mapM_cons]
    infer_instance

theorem Closed.foldlM {f : β → α → Eval β} (hf : ∀ b a, Closed (f b a)) (as : List α) (b : β) :
    Closed (as.foldlM f b) := by
  induction as generalizing b with
  | nil =>
    rw [List.foldlM_nil]
    infer_instance
  | cons a as ih =>
    rw [List.foldlM_cons]
    infer_instance

theorem Closed.filterMapM {f : α → Eval (Option β)} (hf : ∀ a, Closed (f a)) (as : List α) :
    Closed (as.filterMapM f) := by
  induction as with
  | nil =>
    rw [List.filterMapM_nil]
    infer_instance
  | cons a as ih =>
    rw [List.filterMapM_cons]
    refine .bind fun b => ?_
    cases b <;> infer_instance

section
variable (as : List α)

instance closed_forIn (f : α → β → Eval (ForInStep β)) [hf : ∀ a b, Closed (f a b)] (b : β) :
    Closed (forIn as b f) :=
  .forIn (fun a _ => hf a) b

instance closed_forM (f : α → Eval PUnit) [hf : ∀ a, Closed (f a)] : Closed (as.forM f) :=
  .forM hf as

instance closed_mapM (f : α → Eval β) [hf : ∀ a, Closed (f a)] : Closed (as.mapM f) :=
  .mapM hf as

instance closed_foldlM (f : β → α → Eval β) [hf : ∀ b a, Closed (f b a)] (b : β) :
    Closed (as.foldlM f b) :=
  .foldlM hf as b

instance closed_anyM (f : α → Eval Bool) [∀ a, Closed (f a)] : Closed (as.anyM f) := by
  induction as with
  | nil => exact closed_pure _
  | cons a as ih =>
    refine .bind fun b => ?_
    cases b with
    | false => exact ih
    | true => exact closed_pure _

instance closed_findM? (f : α → Eval Bool) [∀ a, Closed (f a)] : Closed (as.findM? f) := by
  induction as with
  | nil => exact closed_pure _
  | cons a as ih =>
    refine .bind fun b => ?_
    cases b with
    | false => exact ih
    | true => exact closed_pure _

theorem closed_filterAuxM (f : α → Eval Bool) [∀ a, Closed (f a)] (found : List α) :
    Closed (as.filterAuxM f found) := by
  induction as generalizing found with
  | nil => exact closed_pure _
  | cons a as ih => exact .bind fun b => ih _

instance closed_filterM (f : α → Eval Bool) [∀ a, Closed (f a)] : Closed (as.filterM f) :=
  have := closed_filterAuxM as f []
  closed_bind _ _

end

instance closed_optionForM (o : Option α) (f : α → Eval PUnit) [∀ a, Closed (f a)] :
    Closed (o.forM f) := by
  cases o with
  | none => exact closed_pure _
  | some a => exact inferInstanceAs (Closed (f a))

/-! ### Making things -/

section
variable (place : Nat)

instance closed_ofFloat (x : Float) : Closed (ofFloat x) := by
  refine closed_making fun h hc => ?_
  split
  · exact { hc with }
  · exact hc

instance closed_newList (items : List Value) : Closed (newList items) :=
  closed_making fun _ hc => { hc with }

instance closed_newDict (pairs : List (Value × Value)) : Closed (newDict pairs) :=
  closed_making fun _ hc => { hc with }

instance closed_newCells (members : List (String × Value)) : Closed (newCells members) :=
  closed_making fun _ hc => { hc with }

instance closed_newCursor (c : Cursor) : Closed (newCursor c) :=
  closed_making fun _ hc => { hc with }

theorem closed_newActivation {a : Activation} (ha : a.parent = none) : Closed (newActivation a) :=
  closed_making fun _ hc =>
    { hc with activations := fun b hb => (Array.mem_push.1 hb).elim (hc.activations b) (· ▸ ha) }

theorem closed_newContext {c : Context} (h : c.IsClosed) : Closed (newContext c) :=
  closed_making fun _ hc =>
    { hc with contexts := fun b hb => (Array.mem_push.1 hb).elim (hc.contexts b) (· ▸ h) }

theorem closed_newLoop {l : LoopState} (h : l.IsClosed) : Closed (newLoop l) :=
  closed_making fun _ hc =>
    { hc with loops := fun b hb => (Array.mem_push.1 hb).elim (hc.loops b) (· ▸ h) }

theorem closed_newRoutine {r : Routine} (h : r.IsClosed) : Closed (newRoutine r) :=
  closed_making fun _ hc =>
    { hc with routines := fun b hb => (Array.mem_push.1 hb).elim (hc.routines b) (· ▸ h) }

/-! ### Looking at things and changing them -/

instance closed_listAt : Closed (listAt place) := closed_bind _ _

instance closed_dictAt : Closed (dictAt place) := closed_bind _ _

instance closed_cellsAt : Closed (cellsAt place) := closed_bind _ _

instance closed_cursorAt : Closed (cursorAt place) := closed_bind _ _

instance closed_loopAt : Closed (loopAt place) := closed_bind _ _

instance closed_activationAt : Closed (activationAt place) := closed_bind _ _

instance closed_contextAt : Closed (contextAt place) := by
  unfold contextAt
  refine .bind fun _ => ?_
  split <;> infer_instance

instance closed_routineAt : Closed (routineAt place) := closed_bind _ _

instance closed_moduleAt : Closed (moduleAt place) := closed_bind _ _

instance closed_setList (items : List Value) : Closed (setList place items) :=
  closed_modify fun _ hc => { hc with }

instance closed_setDict (pairs : List (Value × Value)) : Closed (setDict place pairs) :=
  closed_modify fun _ hc => { hc with }

instance closed_setCursor (c : Cursor) : Closed (setCursor place c) :=
  closed_modify fun _ hc => { hc with }

theorem closed_setLoop {l : LoopState} (h : l.IsClosed) : Closed (setLoop place l) :=
  closed_modify fun _ hc =>
    { hc with
      loops := fun b hb => (Array.mem_or_eq_of_mem_setIfInBounds hb).elim (hc.loops b) (· ▸ h) }

theorem closed_setActivation {a : Activation} (ha : a.parent = none) :
    Closed (setActivation place a) :=
  closed_modify fun _ hc =>
    { hc with
      activations := fun b hb =>
        (Array.mem_or_eq_of_mem_setIfInBounds hb).elim (hc.activations b) (· ▸ ha) }

theorem closed_setContext {c : Context} (h : c.IsClosed) : Closed (setContext place c) :=
  closed_modify fun _ hc =>
    { hc with
      contexts := fun b hb =>
        (Array.mem_or_eq_of_mem_setIfInBounds hb).elim (hc.contexts b) (· ▸ h) }

/-! ### What a closed heap holds -/

omit [Known] in
/-- What holds of all entries of an array and of the default holds of what is at a place. -/
theorem getD_of_forall {P : α → Prop} {as : Array α} {d : α} (h : ∀ a ∈ as, P a) (hd : P d) :
    P (as.getD place d) := by
  rw [Array.getD_eq_getD_getElem?]
  cases ha : as[place]? with
  | none => exact hd
  | some a => exact h a (Array.mem_of_getElem? ha)

theorem gives_loopAt : Gives (loopAt place) LoopState.IsClosed := by
  rintro m h l h' hc ⟨⟩
  exact getD_of_forall place hc.loops fun _ hr => nomatch hr

theorem gives_activationAt : Gives (activationAt place) (·.parent = none) := by
  rintro m h a h' hc ⟨⟩
  exact getD_of_forall place hc.activations rfl

omit [Known] in
theorem contextAt_eq_ok {m : Machine} {h h' : Heap} {c : Context} :
    contextAt place m h = (.ok c, h') ↔ h.contexts[place]? = some c ∧ h' = h := by
  unfold contextAt
  rw [bind_of_ok (x := get) rfl]
  cases h.contexts[place]? with
  | none =>
    refine ⟨fun he => ?_, fun he => nomatch he.1⟩
    cases congrArg Prod.fst he
  | some c' =>
    refine ⟨fun he => ?_, ?_⟩
    · cases he
      exact ⟨rfl, rfl⟩
    · rintro ⟨⟨⟩, rfl⟩
      rfl

theorem gives_contextAt : Gives (contextAt place) Context.IsClosed := by
  intro m h c h' hc he
  exact hc.contexts c (Array.mem_of_getElem? ((contextAt_eq_ok place).1 he).1)

/-- The body of the default macro is empty. -/
theorem Routine.isClosed_default : (default : Routine).IsClosed := by
  refine ⟨rfl, ?_⟩
  exact allKnown_nil

theorem gives_routineAt : Gives (routineAt place) Routine.IsClosed := by
  rintro m h r h' hc ⟨⟩
  exact getD_of_forall place hc.routines Routine.isClosed_default

end

/-! ### What a machine is asked for -/

instance closed_call (v : Value) (args : Actuals) : Closed (call v args) :=
  ⟨fun hm => hm.call v args⟩

instance closed_pull (place : Nat) : Closed (fun m => m.pull place) := ⟨fun hm => hm.pull place⟩

theorem closed_block {b : PlacedBlock} (context depth : Nat) (hb : b.block.IsClosed) :
    Closed (fun m => m.block b context depth) :=
  ⟨fun hm => hm.block b context depth hb⟩

end Eval
end ApiScribe.Template
