import ApiScribe.Proofs.Closed.Execution

/-!
# The rendering of a closed template

Machines of the same depth agree, whatever their templates are, because a machine runs other
templates only for code that refers to them.  So the rendering of a closed template depends on no
other template and on no name that it does not look up (`renderIn_eq`), and it leaves no module to
later renderings.
-/

namespace ApiScribe.Template

variable [Known]

namespace Eval

/-! ### Functions -/

instance closed_makeRange (args : Actuals) : Closed (makeRange args) := by
  unfold makeRange
  repeat' first | infer_instance | refine .bind fun _ => ?_ | split | dsimp only

instance closed_newJoiner (args : Actuals) : Closed (newJoiner args) :=
  .bind fun _ => closed_making fun _ hc => { hc with }

instance closed_newCycler (args : Actuals) : Closed (newCycler args) := by
  have := closed_making (f := fun h : Heap => (Value.cycler h.cyclers.size,
    { h with cyclers := h.cyclers.push (args.positional, 0) })) fun _ hc => { hc with }
  unfold newCycler
  repeat' first | infer_instance | refine .bind fun _ => ?_ | split

instance closed_callFunction (function : Function) (args : Actuals) :
    Closed (callFunction function args) := by
  cases function with
  | cells =>
    unfold callFunction
    refine .bind fun pairs => .andThen (.mapM (fun entry => ?_) _) fun members => inferInstance
    obtain ⟨k, v⟩ := entry
    dsimp only
    split <;> infer_instance
  | _ =>
    unfold callFunction
    infer_instance

instance closed_callJoiner (place : Nat) (args : Actuals) : Closed (callJoiner place args) := by
  have (separator : Value) : Closed (modify fun h =>
      { h with joiners := h.joiners.setIfInBounds place (separator, true) } : Eval PUnit) :=
    closed_modify fun _ hc => { hc with }
  unfold callJoiner
  infer_instance

/-! ### Macros, loops and blocks -/

instance closed_passArguments (r : Routine) (args : Actuals) : Closed (passArguments r args) := by
  unfold passArguments
  repeat' first | infer_instance | refine .bind fun _ => ?_ | split | dsimp only

instance closed_fillParameters (f : Frame) (parameters : List Parameter)
    (values : List (String × Option Value)) : Closed (fillParameters f parameters values) := by
  induction parameters generalizing values with
  | nil => cases values <;> exact closed_pure _
  | cons p parameters ih =>
    cases values with
    | nil => exact closed_pure _
    | cons value values =>
      unfold fillParameters
      repeat' first | infer_instance | refine .bind fun _ => ?_ | split

theorem closed_callRoutine {r : Routine} (h : r.IsClosed) (args : Actuals) :
    Closed (callRoutine r args) := by
  unfold callRoutine
  refine .bind fun passed => ?_
  extract_lets scope
  refine .andThen (closed_newActivation rfl) fun activation => ?_
  extract_lets f
  -- the frame begins with the scope of the macro's body, of which all names are known
  have := closed_enterBody (f := f) h.layer
  have := closed_execAll f r.body h.closed h.inside
  clear_value f
  refine .andThen (.forIn (fun entry _ _ => ?_) _) fun _ => inferInstance
  obtain ⟨name, v⟩ := entry
  cases v <;> infer_instance

instance closed_callLoop (place : Nat) (args : Actuals) : Closed (callLoop place args) := by
  unfold callLoop
  refine .bind_of_gives (gives_loopAt place) fun l hl => .bind fun values => ?_
  split
  · infer_instance
  · next r hr =>
    have hc := hl r hr
    have (depth : Nat) (v : Value) := closed_runRecursion hc
      (fun f => execAll f r.body) (fun f => execAll f r.otherwise)
      (fun f hf => closed_execAll f r.body hc.body.closed (hf ▸ hc.body.inside))
      (fun f hf => closed_execAll f r.otherwise hc.otherwise.closed (hf ▸ hc.otherwise.inside))
      depth v
    infer_instance

instance closed_callBlock (name : String) (context depth : Nat) (args : Actuals) :
    Closed (callBlock name context depth args) := by
  unfold callBlock
  refine .bind fun _ => .bind_of_gives (gives_contextAt context) fun c hc => ?_
  split
  · next b hb =>
    obtain ⟨found, hf, hb⟩ := Option.bind_eq_some_iff.1 hb
    have := closed_block context depth (hc.lookup name b (hf ▸ List.mem_of_getElem? hb))
    infer_instance
  · infer_instance

theorem closed_runBlock {b : PlacedBlock} (h : b.block.IsClosed) (context depth : Nat) :
    Closed (runBlock b context depth) := by
  unfold runBlock
  refine .andThen (closed_newActivation rfl) fun activation => ?_
  extract_lets scope f
  have := closed_enterBody (f := f) h.layer
  have := closed_execAll f b.block.body h.closed h.inside
  clear_value f
  infer_instance

instance closed_callValue (v : Value) (args : Actuals) : Closed (callValue v args) := by
  unfold callValue
  split
  case h_3 place =>
    refine .bind_of_gives (gives_routineAt place) fun r hr => ?_
    have := closed_callRoutine hr args
    infer_instance
  all_goals infer_instance

end Eval

/-! ### Machines -/

section
variable {globals globals' : Globals} (hshared : ∀ n, Known.shared n → globals n = globals' n)

include hshared

/-- Machines of one depth agree if they know the same about the names that code may look up. -/
theorem Machine.agrees_ofDepth (templates templates' : String → Option Compiled) (depth : Nat) :
    (Machine.ofDepth globals templates depth).Agrees
      (Machine.ofDepth globals' templates' depth) := by
  -- a machine hands calls to one of less depth, and one without depth refuses them
  induction depth with
  | zero =>
    exact ⟨hshared, fun _ _ _ hc => ⟨rfl, hc⟩, fun _ _ _ _ _ hc => ⟨rfl, hc⟩,
      fun _ _ hc => ⟨rfl, hc⟩⟩
  | succ depth ih =>
    refine ⟨hshared, fun v args => ?_, fun b context depth hb => ?_, fun place => ?_⟩
    · exact (Eval.closed_callValue v args).same ih
    · exact ((Eval.closed_runBlock hb context depth).same ih).within 1
    · exact ((Eval.closed_pullCursor Eval.holds place).same ih).within 1

end

/-- A template is closed, and what it looks up is known. -/
structure Compiled.IsSafe (t : Compiled) : Prop where
  closed : t.IsClosed
  known : AllKnown t.lookups

theorem Compiled.IsSafe.body {t : Compiled} (ht : t.IsSafe) :
    IsClosedIn (Scope.ofTemplate t.body) t.body :=
  ⟨ht.closed.body, (allKnown_append.1 ht.known).1⟩

theorem Compiled.IsSafe.block {t : Compiled} (ht : t.IsSafe) {b : Block} (hb : b ∈ t.blocks) :
    b.IsClosed := by
  refine ⟨ht.closed.blocks b hb, fun n hn => ?_⟩
  exact (allKnown_append.1 ht.known).2 n (List.mem_flatMap.2 ⟨b, hb, hn⟩)

namespace Eval

variable {m m' : Machine} {name : String} {t : Compiled}

omit [Known] in
theorem template?_eq (ht : m.template? name = some t) (h : Heap) :
    template? name m h = (.ok (some t), h) := by
  show (Except.ok (m.template? name), h) = _
  rw [ht]

omit [Known] in
/-- The blocks of a template by name: one of each name. -/
theorem blocksByName_eq (ht : m.template? name = some t) (h : Heap) :
    blocksByName name m h = (.ok (t.blocks.map fun b => (b.name, [⟨name, b⟩])), h) := by
  unfold blocksByName
  rw [bind_of_ok (template?_eq ht h)]
  rfl

/-- The template of a name does the same on all machines that agree, if it is the same and
safe. -/
theorem sameOn_runRoot (hm : m.Agrees m') (ht : m.template? name = some t)
    (ht' : m'.template? name = some t) (hs : t.IsSafe) (context : Nat) :
    SameOn m m' (runRoot name context) := by
  intro h hh
  unfold runRoot
  rw [bind_of_ok (template?_eq ht h), bind_of_ok (template?_eq ht' h)]
  refine (?_ : Closed _).same hm h hh
  refine .andThen (closed_newActivation rfl) fun activation => ?_
  extract_lets f go
  have := closed_enterBody (f := f) hs.body.layer
  have := closed_execAll f t.body hs.body.closed hs.body.inside
  have (u : Unit) : Closed (go u) := by
    -- nothing has made a template the parent of this one
    refine .bind fun _ => .bind fun _ => .bind_of_gives (gives_activationAt activation) ?_
    intro a ha
    rw [ha]
    exact closed_pure _
  clear_value go
  infer_instance

/-- A context for a template does the same on all machines that agree, if the template is the same
and safe, and is given what code may count on. -/
theorem sameOn_contextFor (hm : m.Agrees m') (ht : m.template? name = some t)
    (ht' : m'.template? name = some t) (hs : t.IsSafe) {given : List (String × Value)}
    (hgiven : ∀ n, Known.given n → (given.lookup n).isSome) :
    SameOn m m' (contextFor name given) := by
  intro h hh
  unfold contextFor
  rw [bind_of_ok (blocksByName_eq ht h), bind_of_ok (blocksByName_eq ht' h)]
  refine (closed_newContext ⟨fun entry he b hb => ?_, fun n hn => ?_⟩).same hm h hh
  case refine_2 => exact hgiven n hn
  obtain ⟨block, hblock, rfl⟩ := List.mem_map.1 he
  obtain rfl := List.mem_singleton.1 hb
  exact hs.block hblock

end Eval

/-! ### Data -/

open Eval

mutual

theorem closed_loadData : ∀ d : Data, Closed (Data.load d)
  | .none => closed_pure _
  | .bool _ => closed_pure _
  | .int _ => closed_pure _
  | .float _ => closed_pure _
  | .text _ => closed_pure _
  | .list items => by
    have := closed_loadAll items
    unfold Data.load
    infer_instance
  | .tuple items => by
    have := closed_loadAll items
    unfold Data.load
    infer_instance
  | .record members => by
    have := closed_loadMembers members
    unfold Data.load
    infer_instance

theorem closed_loadAll : ∀ ds : List Data, Closed (loadAll ds)
  | [] => closed_pure _
  | d :: ds => by
    have := closed_loadData d
    have := closed_loadAll ds
    unfold loadAll
    infer_instance

theorem closed_loadMembers : ∀ members : List (String × Data), Closed (loadMembers members)
  | [] => closed_pure _
  | (name, d) :: rest => by
    have := closed_loadData d
    have := closed_loadMembers rest
    unfold loadMembers
    infer_instance

end

attribute [instance] closed_loadData closed_loadAll closed_loadMembers

instance closed_givenBy (d : Data) : Closed (givenBy d) := by
  unfold givenBy
  split <;> infer_instance

/-! ### Renderings -/

omit [Known] in
theorem Machine.template?_ofDepth (globals : Globals) (templates : String → Option Compiled)
    (depth : Nat) : (Machine.ofDepth globals templates depth).template? = templates := by
  cases depth <;> rfl

/-- A closed heap leaves nothing. -/
theorem Heap.IsClosed.kept {h : Heap} (hh : h.IsClosed) : h.kept = {} := by
  unfold Heap.kept
  rw [hh.imported]
  rfl

section
variable {globals globals' : Globals} {templates templates' : String → Option Compiled}
  {name : String} {t : Compiled}

section
variable (hshared : ∀ n, Known.shared n → globals n = globals' n) (ht : templates name = some t)
  (ht' : templates' name = some t) (hs : t.IsSafe)

include hshared ht ht' hs

theorem sameOn_runTemplate (depth context : Nat) :
    SameOn (Machine.ofDepth globals templates (depth + 1))
      (Machine.ofDepth globals' templates' (depth + 1)) (runTemplate name context) := by
  have hm := Machine.agrees_ofDepth hshared templates templates' depth
  rw [← Machine.template?_ofDepth globals templates depth] at ht
  rw [← Machine.template?_ofDepth globals' templates' depth] at ht'
  exact (sameOn_runRoot hm ht ht' hs context).within 1

/-- A template that looks up known names only renders alike wherever these are known in the same
way, with all sets of templates that have it under its name, and it leaves nothing to later
renderings. -/
theorem renderIn_eq {data : Data}
    (hgiven : Gives (givenBy data) fun pairs => ∀ n, Known.given n → (pairs.lookup n).isSome) :
    renderIn globals templates name data {} = renderIn globals' templates' name data {} ∧
      (renderIn globals' templates' name data {}).2 = {} := by
  unfold renderIn
  extract_lets run
  have hrun : SameOn (Machine.ofDepth globals templates machineDepth)
      (Machine.ofDepth globals' templates' machineDepth) run := by
    have hm := Machine.agrees_ofDepth hshared templates templates' machineDepth
    have hd := ht
    have hd' := ht'
    rw [← Machine.template?_ofDepth globals templates machineDepth] at hd
    rw [← Machine.template?_ofDepth globals' templates' machineDepth] at hd'
    refine ((closed_givenBy data).same hm).bind_of_gives hgiven fun given hvalues => ?_
    refine (sameOn_contextFor hm hd hd' hs hvalues).bind fun context => ?_
    have root := (sameOn_runTemplate hshared ht ht' hs (frameLimit + 1) context).within 1
    refine (root.capture.bind fun pieces => ?_).bind fun text => ?_
    · exact (closed_ofExcept _).same hm
    · exact (closed_pure _).same hm
  obtain ⟨he, hh⟩ := hrun {} .empty
  rw [he]
  exact ⟨rfl, hh.kept⟩

end

omit [Known] in
/-- A closed template renders alike with all sets of templates that have it under its name, and
leaves nothing to later renderings. -/
theorem render_eq_of_isClosed (ht : templates name = some t) (ht' : templates' name = some t)
    (hc : t.IsClosed) (data : Data) :
    render templates name data {} = render templates' name data {} ∧
      (render templates' name data {}).2 = {} := by
  -- the templates know the same names, so all of them may be looked up
  let _ : Known := ⟨fun _ => True, fun _ => False⟩
  have hs : t.IsSafe := ⟨hc, fun _ _ => .inl trivial⟩
  exact renderIn_eq (fun _ _ => rfl) ht ht' hs fun _ _ _ _ _ _ _ hn => hn.elim

end
end ApiScribe.Template
