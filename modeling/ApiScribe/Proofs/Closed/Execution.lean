import ApiScribe.Proofs.Closed.Filters

/-!
# Closed code is executed by closed computations

The bodies of macros, loops and blocks are closed if the code around them is.  `Stmt.closed_exec` is
by recursion on the statement.

Only the beginning of a body looks names up, so this is where it counts that they are known
(`closed_enterBody`).  A context never loses a value: what a template assigns is added, and the
context of a block has all that is visible at its place.
-/

namespace ApiScribe.Template

/-! ### Contexts -/

theorem isSome_lookup_assign {ν : Type} (n key : String) (v : ν) (pairs : List (String × ν)) :
    ((assign key v pairs).lookup n).isSome = (n == key || (pairs.lookup n).isSome) := by
  induction pairs with
  | nil => cases hn : n == key <;> simp [assign, List.lookup_cons, hn]
  | cons pair pairs ih =>
    obtain ⟨k, w⟩ := pair
    by_cases hk : k = key
    · subst hk
      cases hn : n == k <;> simp [assign, List.lookup_cons, hn]
    · cases hn : n == k with
      | true => simp [assign, List.lookup_cons, hn, hk]
      | false => simpa [assign, List.lookup_cons, hn, hk] using ih

theorem isSome_lookup_assignAll {ν : Type} (n : String) (new pairs : List (String × ν)) :
    ((new.foldl (fun acc (name, v) => assign name v acc) pairs).lookup n).isSome =
      ((new.lookup n).isSome || (pairs.lookup n).isSome) := by
  induction new generalizing pairs with
  | nil => rfl
  | cons pair new ih =>
    obtain ⟨name, v⟩ := pair
    rw [List.foldl_cons, ih, isSome_lookup_assign]
    cases hn : n == name <;> simp [List.lookup_cons, hn]

variable [Known]

namespace Context.IsClosed

variable {c : Context} (hc : c.IsClosed)

include hc

/-- The blocks of a name in a closed context are closed. -/
theorem lookup (name : String) : ∀ b ∈ (c.blocks.lookup name).getD [], b.block.IsClosed := by
  cases hl : c.blocks.lookup name with
  | none => exact fun b hb => nomatch hb
  | some found =>
    obtain ⟨before, after, he, -⟩ := List.lookup_eq_some_iff.1 hl
    refine hc.blocks (name, found) ?_
    rw [he]
    exact List.mem_append_right before List.mem_cons_self

/-- A closed context to which something is assigned. -/
theorem assign (name : String) (v : Value) (exported : List String) :
    Context.IsClosed { c with
      assigned := Template.assign name v c.assigned, exported := exported } := by
  refine ⟨hc.blocks, fun n hn => ?_⟩
  have hvalue := hc.given n hn
  rw [Option.isSome_or] at hvalue ⊢
  rw [isSome_lookup_assign, Bool.or_assoc, hvalue, Bool.or_true]

theorem everything {n : String} (hn : Known.given n) : ((Eval.everything c).lookup n).isSome := by
  have hvalue := hc.given n hn
  rw [Option.isSome_or] at hvalue
  unfold Eval.everything
  rw [isSome_lookup_assignAll, hvalue]

end Context.IsClosed

namespace Eval

/-! ### Variables -/

/-- A known name has the same value on all machines that agree. -/
theorem closed_lookUp {c : Context} (hc : c.IsClosed) {name : String}
    (hn : Known.shared name ∨ Known.given name) : Closed (lookUp c name) := by
  refine ⟨fun {m m'} hm h hh => ⟨?_, hh⟩⟩
  show (Except.ok (find? m.globals c name), h) = (Except.ok (find? m'.globals c name), h)
  unfold find?
  rcases hn with hn | hn
  · rw [hm.globals name hn]
  · obtain ⟨v, hv⟩ := Option.isSome_iff_exists.1 (hc.given name hn)
    rw [hv]
    rfl

section
variable (f : Frame)

instance closed_lookupVariable? (level : Nat) (name : String) :
    Closed (lookupVariable? f level name) := by
  unfold lookupVariable?
  infer_instance

instance closed_setVariable (name : String) (v : Value) : Closed (setVariable f name v) :=
  .bind_of_gives (gives_activationAt _) fun _ ha => closed_setActivation _ ha

instance closed_clearVariable (name : String) : Closed (clearVariable f name) :=
  .bind_of_gives (gives_activationAt _) fun _ ha => closed_setActivation _ ha

instance closed_putVariable (name : String) (v : Option Value) : Closed (putVariable f name v) := by
  unfold putVariable
  split <;> infer_instance

variable {f} in
theorem closed_enterBody (hf : AllKnown f.scope.lookups) : Closed (enterBody f) := by
  unfold enterBody
  split
  · infer_instance
  · next layer outer hscope =>
    refine .bind_of_gives (gives_contextAt _) fun c hc => ?_
    refine .andThen (.forIn (fun entry hentry _ => ?_) _) fun _ => closed_pure _
    obtain ⟨name, source⟩ := entry
    dsimp only
    split
    · infer_instance
    · -- of the variables of a layer, those that come from the data are its lookups
      have hname : name ∈ f.scope.lookups := by
        rw [hscope]
        exact List.mem_filterMap.2 ⟨_, hentry, rfl⟩
      have := closed_lookUp hc (hf name hname)
      infer_instance
    · infer_instance
    · infer_instance

instance closed_leaveBody : Closed (leaveBody f) := by
  unfold leaveBody
  split <;> infer_instance

theorem closed_inBody {scope : Scope} (hscope : AllKnown scope.lookups)
    (body : Frame → Eval Unit) [Closed (body (f.inBody scope))] : Closed (inBody f scope body) := by
  have := closed_enterBody (f := f.inBody scope) hscope
  unfold inBody
  infer_instance

instance closed_readVariable (name : String) : Closed (readVariable f name) := by
  unfold readVariable
  split <;> infer_instance

instance closed_localVariables : Closed (localVariables f) := by
  unfold localVariables
  refine .filterMapM (fun name => ?_) _
  split <;> infer_instance

instance closed_hasParent : Closed (hasParent f) := by
  unfold hasParent
  infer_instance

instance closed_publish (names : List String) : Closed (publish f names) := by
  unfold publish
  split
  · refine .andThen (.forIn (fun name _ _ => ?_) _) fun _ => closed_pure _
    split
    · infer_instance
    · refine .bind fun found => ?_
      split
      · next v =>
        refine .bind_of_gives (gives_contextAt _) fun c hc => ?_
        have (exported : List String) := closed_setContext f.context (hc.assign name v exported)
        infer_instance
      · infer_instance
  · infer_instance

end

/-! ### Assignment -/

instance closed_takeItems (place n : Nat) : Closed (takeItems place n) := by
  induction n with
  | zero => exact closed_pure _
  | succ n ih =>
    refine .bind fun next => ?_
    cases next <;> infer_instance

instance closed_unpack (v : Value) (count : Nat) : Closed (unpack v count) := by
  unfold unpack
  refine .bind fun _ => ?_
  split <;> infer_instance

mutual

theorem closed_assignTo (f : Frame) (v : Value) : ∀ target : Target, Closed (assignTo f v target)
  | .name name => closed_setVariable f name v
  | .cell owner name => by
    unfold assignTo
    refine .bind fun found => ?_
    split
    · exact closed_modify fun _ hc => { hc with }
    · infer_instance
  | .tuple targets => by
    have (vs : List Value) := closed_assignAll f vs targets
    unfold assignTo
    infer_instance

theorem closed_assignAll (f : Frame) :
    ∀ (vs : List Value) (targets : List Target), Closed (assignAll f vs targets)
  | v :: vs, t :: ts => by
    have := closed_assignTo f v t
    have := closed_assignAll f vs ts
    unfold assignAll
    infer_instance
  | [], targets => by cases targets <;> exact closed_pure _
  | _ :: _, [] => closed_pure _

end

attribute [instance] closed_assignTo closed_assignAll

end Eval

/-! ### Expressions -/

open Eval

namespace Constant

mutual

theorem closed_make : ∀ c : Constant, Closed c.make
  | .none => closed_pure _
  | .bool _ => closed_pure _
  | .int _ => closed_pure _
  | .float x => closed_ofFloat x
  | .complex _ _ => closed_pure _
  | .text _ => closed_pure _
  | .markup _ => closed_pure _
  | .tuple items => by
    have := closed_makeAll items
    unfold make
    infer_instance
  | .list items => by
    have := closed_makeAll items
    unfold make
    infer_instance
  | .dict pairs => by
    have := closed_makePairs pairs
    unfold make
    infer_instance

theorem closed_makeAll : ∀ cs : List Constant, Closed (makeAll cs)
  | [] => closed_pure _
  | c :: cs => by
    have := closed_make c
    have := closed_makeAll cs
    unfold makeAll
    infer_instance

theorem closed_makePairs : ∀ pairs : List (Constant × Constant), Closed (makePairs pairs)
  | [] => closed_pure _
  | (k, c) :: rest => by
    have := closed_make k
    have := closed_make c
    have := closed_makePairs rest
    unfold makePairs
    infer_instance

end

attribute [instance] closed_make closed_makeAll closed_makePairs

instance closed_load (c : Constant) : Closed c.load := by
  unfold load
  split <;> infer_instance

end Constant

namespace Eval

instance closed_namedOf (function : String) (v : Value) : Closed (namedOf function v) := by
  unfold namedOf
  split <;> infer_instance

instance closed_positionalOf (v : Value) : Closed (positionalOf v) := by
  unfold positionalOf
  infer_instance

instance closed_joinNamed (function : String) (named : List (String × Value))
    (more : List (Value × Value)) : Closed (joinNamed function named more) := by
  unfold joinNamed
  refine .andThen (.forIn (fun entry _ _ => ?_) _) fun _ => .andThen (.mapM (fun entry => ?_) _) ?_
  · obtain ⟨k, v⟩ := entry
    dsimp only
    split <;> infer_instance
  · obtain ⟨k, v⟩ := entry
    dsimp only
    split <;> infer_instance
  · infer_instance

instance closed_gather (function : String) (args : Eval (List Value))
    (named : Eval (List (String × Value))) (more moreNamed : Eval (Option Value)) [Closed args]
    [Closed named] [Closed more] [Closed moreNamed] :
    Closed (gather function args named more moreNamed) := by
  unfold gather
  repeat' first | infer_instance | refine .bind fun _ => ?_ | split

end Eval

section
variable (f : Frame) (hole : Value)

mutual

theorem Expr.closed_eval : ∀ e : Expr, Closed (e.eval f hole)
  | .name n => closed_readVariable f n
  | .const c => Constant.closed_load c
  | .known c _ => Constant.closed_load c
  | .tuple items => by
    have := closed_evalAll items
    unfold Expr.eval
    infer_instance
  | .list items => by
    have := closed_evalAll items
    unfold Expr.eval
    infer_instance
  | .dict pairs => by
    have := closed_evalPairs pairs
    unfold Expr.eval
    infer_instance
  | .cell owner n => by
    unfold Expr.eval
    infer_instance
  | .member e n => by
    have := Expr.closed_eval e
    unfold Expr.eval
    infer_instance
  | .item e key => by
    have := Expr.closed_eval e
    have := Expr.closed_eval key
    have ends := closed_evalEnds key
    -- a slice has no value of its own; where it is the key, its ends are evaluated
    cases key with
    | slice start stop step =>
      obtain ⟨_, _, _⟩ := ends start stop step rfl
      unfold Expr.eval
      infer_instance
    | _ =>
      unfold Expr.eval
      infer_instance
  | .slice _ _ _ => closed_pure _
  | .call g args named more moreNamed => by
    have := Expr.closed_eval g
    have := closed_evalAll args
    have := closed_evalNamed named
    have := closed_evalSome more
    have := closed_evalSome moreNamed
    unfold Expr.eval
    infer_instance
  | .filter e n args named more moreNamed line => by
    have := closed_evalSome e
    have := closed_evalAll args
    have := closed_evalNamed named
    have := closed_evalSome more
    have := closed_evalSome moreNamed
    unfold Expr.eval
    infer_instance
  | .test e n args named more moreNamed line => by
    have := Expr.closed_eval e
    have := closed_evalAll args
    have := closed_evalNamed named
    have := closed_evalSome more
    have := closed_evalSome moreNamed
    unfold Expr.eval
    infer_instance
  | .unary op e => by
    have := Expr.closed_eval e
    unfold Expr.eval
    infer_instance
  | .binary op a b => by
    have := Expr.closed_eval a
    have := Expr.closed_eval b
    unfold Expr.eval
    infer_instance
  | .both a b => by
    have := Expr.closed_eval a
    have := Expr.closed_eval b
    unfold Expr.eval
    infer_instance
  | .either a b => by
    have := Expr.closed_eval a
    have := Expr.closed_eval b
    unfold Expr.eval
    infer_instance
  | .compare e others => by
    have := Expr.closed_eval e
    have (a : Value) := closed_evalCompared a others
    unfold Expr.eval
    infer_instance
  | .concat items => by
    have := closed_evalAll items
    unfold Expr.eval
    infer_instance
  | .choice test yes no line => by
    have := Expr.closed_eval test
    have := Expr.closed_eval yes
    have := closed_evalSome no
    unfold Expr.eval
    infer_instance

/-- The ends of a slice. -/
theorem closed_evalEnds : ∀ (e : Expr) (start stop step : Option Expr), e = .slice start stop step →
    Closed (evalSome f hole start) ∧ Closed (evalSome f hole stop) ∧ Closed (evalSome f hole step)
  | .slice start stop step, _, _, _, rfl =>
    ⟨closed_evalSome start, closed_evalSome stop, closed_evalSome step⟩

theorem closed_evalAll : ∀ es : List Expr, Closed (evalAll f hole es)
  | [] => closed_pure _
  | e :: es => by
    have := Expr.closed_eval e
    have := closed_evalAll es
    unfold evalAll
    infer_instance

theorem closed_evalSome : ∀ e : Option Expr, Closed (evalSome f hole e)
  | none => closed_pure _
  | some e => by
    have := Expr.closed_eval e
    unfold evalSome
    infer_instance

theorem closed_evalPairs : ∀ pairs : List (Expr × Expr), Closed (evalPairs f hole pairs)
  | [] => closed_pure _
  | (k, e) :: rest => by
    have := Expr.closed_eval k
    have := Expr.closed_eval e
    have := closed_evalPairs rest
    unfold evalPairs
    infer_instance

theorem closed_evalNamed : ∀ named : List (String × Expr), Closed (evalNamed f hole named)
  | [] => closed_pure _
  | (name, e) :: rest => by
    have := Expr.closed_eval e
    have := closed_evalNamed rest
    unfold evalNamed
    infer_instance

theorem closed_evalCompared (a : Value) :
    ∀ others : List (CompareOp × Expr), Closed (evalCompared f hole a others)
  | [] => closed_pure _
  | (op, e) :: rest => by
    have := Expr.closed_eval e
    have (b : Value) := closed_evalCompared b rest
    unfold evalCompared
    refine .bind fun b => .bind fun holds => ?_
    split
    · split <;> infer_instance
    · infer_instance

end

attribute [instance] Expr.closed_eval closed_evalAll closed_evalSome closed_evalPairs
  closed_evalNamed closed_evalCompared

end

/-! ### Loops -/

namespace Eval

instance closed_visible (f : Frame) : Closed (visible f) := by
  unfold visible
  infer_instance

/-- What is visible at a place has the values that code may count on. -/
theorem gives_visible (f : Frame) :
    Gives (visible f) fun pairs => ∀ n, Known.given n → (pairs.lookup n).isSome := by
  intro m h pairs h' hh hpairs n hn
  unfold visible at hpairs
  obtain ⟨c, g, hc, hpairs⟩ := ok_of_bind_eq_ok _ hpairs
  obtain ⟨locals, g', -, hpairs⟩ := ok_of_bind_eq_ok _ hpairs
  cases hpairs
  rw [isSome_lookup_assignAll, (gives_contextAt _ m h c g hh hc).everything hn, Bool.or_true]

instance closed_blockContext (f : Frame) (isScoped : Bool) : Closed (blockContext f isScoped) := by
  unfold blockContext
  split
  · refine .bind_of_gives (gives_contextAt _) fun c hc => ?_
    refine .bind_of_gives (gives_visible f) fun given hgiven => closed_newContext ⟨hc.blocks, ?_⟩
    exact fun n hn => by rw [Option.isSome_or, hgiven n hn, Bool.or_true]
  · infer_instance

instance closed_forItems (next : Eval (Option Value)) (step : Value → Eval Unit) [Closed next]
    [∀ v, Closed (step v)] (fuel : Nat) (any : Bool) : Closed (forItems next step fuel any) := by
  induction fuel generalizing any with
  | zero => exact closed_pure _
  | succ fuel ih =>
    refine .bind fun v => ?_
    cases v with
    | none => exact closed_pure _
    | some v => exact .bind fun _ => ih true

mutual

theorem closed_readTarget (f : Frame) : ∀ target : Target, Closed (readTarget f target)
  | .name name => closed_readVariable f name
  | .cell owner name => by
    unfold readTarget
    refine .bind fun v => ?_
    split <;> infer_instance
  | .tuple targets => by
    have := closed_readTargets f targets
    unfold readTarget
    infer_instance

theorem closed_readTargets (f : Frame) : ∀ targets : List Target, Closed (readTargets f targets)
  | [] => closed_pure _
  | t :: ts => by
    have := closed_readTarget f t
    have := closed_readTargets f ts
    unfold readTargets
    infer_instance

end

attribute [instance] closed_readTarget closed_readTargets

instance closed_holds (f : Frame) (target : Target) (test : Expr) (item : Value) :
    Closed (holds f target test item) := by
  unfold holds
  infer_instance

theorem closed_loopCursor {f : Frame} {target : Target} {test : Option Expr}
    (htest : AllKnown (testLookups f.scope target test)) (source : Value) :
    Closed (loopCursor f target test source) := by
  unfold loopCursor
  refine .bind fun cursor => ?_
  split
  · infer_instance
  · refine .andThen (closed_newActivation rfl) fun activation => ?_
    extract_lets _ inner
    have := closed_enterBody (f := inner) htest
    infer_instance

section
variable {f : Frame} {r : Recursion} {recursive : Bool}
  (hr : Recursion.IsClosed recursive { r with frame := f }) (body otherwise : Frame → Eval Unit)
  (hbody : ∀ g : Frame, g.scope = f.scope.inLoop r.target r.body r.otherwise recursive →
    Closed (body g))
  (hotherwise : ∀ g : Frame, g.scope = Scope.ofBody f.scope r.otherwise → Closed (otherwise g))

include hr hbody hotherwise in
theorem closed_runLoop (depth : Nat) (source : Value) :
    Closed (runLoop f r recursive depth source body otherwise) := by
  unfold runLoop
  extract_lets loopVariable inner run finish
  have := closed_enterBody (f := inner) hr.body.layer
  have := hbody inner rfl
  have (v : Value) : Closed (run v) := closed_bind _ _
  have (any : Bool) : Closed (finish any) := by
    have := hotherwise (f.inBody (Scope.ofBody f.scope r.otherwise)) rfl
    have := closed_inBody f hr.otherwise.layer otherwise
    exact closed_bind _ _
  have := closed_loopCursor hr.test source
  -- the parts are known to be closed, and what they do counts no longer
  clear_value run finish
  refine .bind fun entered => ?_
  obtain ⟨source, cursor⟩ := entered
  dsimp only
  split
  · -- the loop is kept with its code only if it can be entered again
    refine .andThen (closed_newLoop ?_) fun place => inferInstance
    intro s hs
    split at hs
    · next hrecursive =>
      cases hs
      rwa [hrecursive] at hr
    · cases hs
  · infer_instance

end

theorem closed_runRecursion {r : Recursion} (hr : r.IsClosed true)
    (body otherwise : Frame → Eval Unit)
    (hbody : ∀ g : Frame, g.scope = r.frame.scope.inLoop r.target r.body r.otherwise true →
      Closed (body g))
    (hotherwise : ∀ g : Frame, g.scope = Scope.ofBody r.frame.scope r.otherwise →
      Closed (otherwise g)) (depth : Nat) (source : Value) :
    Closed (runRecursion r depth source body otherwise) := by
  unfold runRecursion
  refine .andThen (closed_newActivation rfl) fun activation => ?_
  extract_lets _ f
  have hf : Recursion.IsClosed true { r with frame := f } := ⟨hr.body, hr.otherwise, hr.test⟩
  have := closed_runLoop hf body otherwise hbody hotherwise depth source
  infer_instance

instance closed_printFiltered (v : Value) : Closed (printFiltered v) := by
  unfold printFiltered
  split <;> infer_instance

end Eval

/-! ### Statements -/

instance closed_printHeld (held : Option String) : Closed (printHeld held) := by
  unfold printHeld
  infer_instance

instance closed_printPieces (f : Frame) (held : Option String) (pieces : List Piece) :
    Closed (printPieces f held pieces) := by
  induction pieces generalizing held with
  | nil => exact closed_printHeld held
  | cons piece pieces ih => cases piece <;> (unfold printPieces; infer_instance)

instance closed_bindAll (outer inner : Frame) (bindings : List (Target × Expr)) :
    Closed (bindAll outer inner bindings) := by
  induction bindings with
  | nil => exact closed_pure _
  | cons binding bindings ih =>
    unfold bindAll
    infer_instance

instance closed_checkOwners (f : Frame) (owners : List String) : Closed (checkOwners f owners) := by
  refine .forM (fun owner => .bind fun v => ?_) _
  split <;> infer_instance

mutual

theorem Stmt.closed_exec (f : Frame) :
    ∀ s : Stmt, s.refers = false → AllKnown (s.lookups f.scope) → Closed (s.exec f)
  | .output pieces, _, _ => by
    unfold Stmt.exec
    infer_instance
  | .loop target source body otherwise test recursive line, h, hk => by
    obtain ⟨hb, ho⟩ := Bool.or_eq_false_iff.1 h
    obtain ⟨hk, hko⟩ := allKnown_append.1 hk
    obtain ⟨hkt, hkb⟩ := allKnown_append.1 hk
    have hr : Recursion.IsClosed recursive ⟨f, target, body, otherwise, test⟩ :=
      ⟨⟨hb, hkb⟩, ⟨ho, hko⟩, hkt⟩
    have hbody (g : Frame) (hg : g.scope = f.scope.inLoop target body otherwise recursive) :
        Closed (execAll g body) :=
      closed_execAll g body hb (hg ▸ hr.body.inside)
    have hotherwise (g : Frame) (hg : g.scope = Scope.ofBody f.scope otherwise) :
        Closed (execAll g otherwise) :=
      closed_execAll g otherwise ho (hg ▸ hr.otherwise.inside)
    unfold Stmt.exec
    refine .bind fun v => ?_
    extract_lets r
    cases recursive with
    | true =>
      have := closed_runRecursion hr _ _ hbody hotherwise 0 v
      rw [if_pos rfl]
      exact closed_bind _ _
    | false =>
      rw [if_neg (by decide)]
      exact closed_runLoop (f := f) (r := r) hr _ _ hbody hotherwise 0 v
  | .branch test body more otherwise, h, hk => by
    obtain ⟨h, ho⟩ := Bool.or_eq_false_iff.1 h
    obtain ⟨hb, hm⟩ := Bool.or_eq_false_iff.1 h
    obtain ⟨hk, hko⟩ := allKnown_append.1 hk
    obtain ⟨hkb, hkm⟩ := allKnown_append.1 hk
    have := closed_execAll f body hb hkb
    have := closed_execMore f more hm hkm
    have := closed_execAll f otherwise ho hko
    unfold Stmt.exec
    infer_instance
  | .assign target e, _, _ => by
    unfold Stmt.exec
    infer_instance
  | .capture target filter body, h, hk => by
    obtain ⟨hlayer, hinside⟩ := allKnown_append.1 hk
    unfold Stmt.exec
    extract_lets _ inner
    have := closed_enterBody (f := inner) hlayer
    have := closed_execAll inner body h hinside
    clear_value inner
    repeat' first | infer_instance | refine .bind fun _ => ?_ | split
  | .bind bindings body, h, hk => by
    obtain ⟨hlayer, hinside⟩ := allKnown_append.1 hk
    have := closed_enterBody (f := f.inBody (Scope.ofBindings f.scope bindings body)) hlayer
    have := closed_execAll (f.inBody (Scope.ofBindings f.scope bindings body)) body h hinside
    unfold Stmt.exec
    infer_instance
  | .scope body, h, hk => by
    obtain ⟨hlayer, hinside⟩ := allKnown_append.1 hk
    have := closed_execAll (f.inBody (Scope.ofBody f.scope body)) body h hinside
    unfold Stmt.exec
    exact closed_inBody f hlayer _
  | .macroDef name parameters body line, h, hk => by
    unfold Stmt.exec
    exact .andThen (closed_newRoutine ⟨h, hk⟩) fun routine => inferInstance
  | .callBlock call parameters body line, h, hk => by
    unfold Stmt.exec
    refine .andThen (closed_newRoutine ⟨h, hk⟩) fun caller => ?_
    split <;> infer_instance
  | .filterBlock filter body, h, hk => by
    obtain ⟨hlayer, hinside⟩ := allKnown_append.1 hk
    have := closed_enterBody (f := f.inBody (Scope.ofFiltered f.scope filter body)) hlayer
    have := closed_execAll (f.inBody (Scope.ofFiltered f.scope filter body)) body h hinside
    unfold Stmt.exec
    infer_instance
  | .block name body isScoped required line, _, _ => by
    unfold Stmt.exec
    refine .bind fun hasParent => ?_
    split
    · -- the block that runs is one of the context, perhaps not that of this statement
      refine .bind_of_gives (gives_contextAt _) fun c hc => ?_
      extract_lets found
      have hb : ∀ b ∈ found, b.block.IsClosed := hc.lookup name
      clear_value found
      refine .bind fun context => ?_
      extract_lets run
      have (u : Unit) : Closed (run u) := by
        cases found with
        | nil => exact closed_pure _
        | cons b blocks => exact closed_block context 0 (hb b List.mem_cons_self)
      clear_value run
      split <;> infer_instance
    · infer_instance

theorem closed_execAll (f : Frame) :
    ∀ body : List Stmt, IsClosed body → AllKnown (lookupsOf f.scope body) → Closed (execAll f body)
  | [], _, _ => closed_pure _
  | s :: ss, h, hk => by
    obtain ⟨hs, hss⟩ := Bool.or_eq_false_iff.1 h
    obtain ⟨hks, hkss⟩ := allKnown_append.1 hk
    have := Stmt.closed_exec f s hs hks
    have := closed_execAll f ss hss hkss
    unfold execAll
    infer_instance

theorem closed_execMore (f : Frame) :
    ∀ more : List (Expr × List Stmt), refersAnyMore more = false →
      AllKnown (lookupsOfMore f.scope more) → Closed (execMore f more)
  | [], _, _ => closed_pure _
  | (test, body) :: rest, h, hk => by
    obtain ⟨hb, hr⟩ := Bool.or_eq_false_iff.1 h
    obtain ⟨hkb, hkr⟩ := allKnown_append.1 hk
    have := closed_execAll f body hb hkb
    have := closed_execMore f rest hr hkr
    unfold execMore
    infer_instance

end

end ApiScribe.Template
