import ApiScribe.Template.Execute

/-!
# Running templates

A machine of a depth can call macros and run templates and blocks that call further ones, so many
times inside of each other.
-/

namespace ApiScribe.Template
namespace Eval

/-! ### Functions -/

/-- The range of arguments. -/
def makeRange (args : Actuals) : Eval Value := do
  if !args.named.isEmpty then failType "range() takes no keyword arguments"
  let n := args.positional.length
  if n = 0 then failType "range expected at least 1 argument, got 0"
  if n > 3 then failType ("range expected at most 3 arguments, got " ++ toString n)
  match ← args.positional.mapM integerArgument with
  | [stop] => return .range 0 stop 1
  | [start, stop] => return .range start stop 1
  | [start, stop, step] =>
    if step = 0 then fail .value "range() arg 3 must not be zero"
    return .range start stop step
  | _ => return .none

/-- A new joiner. -/
def newJoiner (args : Actuals) : Eval Value := do
  let values ← (⟨"Joiner.__init__", 1, [("sep", some (.text ", "))]⟩ : Signature).bind args
  making fun h => (.joiner h.joiners.size,
    { h with joiners := h.joiners.push (values.headD .none, false) })

/-- A new cycler. -/
def newCycler (args : Actuals) : Eval Value := do
  if let (k, _) :: _ := args.named then
    failType ("Cycler.__init__() got an unexpected keyword argument " ++ Text.quotedString k)
  if args.positional.isEmpty then fail .change "at least one item has to be provided"
  making fun h => (.cycler h.cyclers.size,
    { h with cyclers := h.cyclers.push (args.positional, 0) })

/-- Calls a function. -/
def callFunction (function : Function) (args : Actuals) : Eval Value := do
  match function with
  | .range => makeRange args
  | .dict => newDict (← pairArguments "dict" args [])
  | .cells =>
    let pairs ← pairArguments "dict" args []
    newCells (← pairs.mapM fun (k, v) => do
      match k.string? with
      | some name => return (name, v)
      | none => return (← literal k, v))
  | .joiner => newJoiner args
  | .cycler => newCycler args
  | .lipsum => throw (.unsupported "The function 'lipsum'")

/-- The separator of a joiner, which is empty the first time. -/
def callJoiner (place : Nat) (args : Actuals) : Eval Value := do
  let _ ← (⟨"Joiner.__call__", 1, []⟩ : Signature).bind args
  let (separator, used) := (← get).joiners.getD place default
  modify fun h => { h with joiners := h.joiners.setIfInBounds place (separator, true) }
  return if used then separator else .text ""

/-! ### Macros -/

/-- The arguments of a macro: the values of its parameters and of what its body uses besides. -/
structure Passed where
  values : List (String × Option Value)
  extras : List (String × Value)

/-- Matches the arguments of a call with the parameters of a macro. -/
def passArguments (r : Routine) (args : Actuals) : Eval Passed := do
  let shown ← match r.name with
    | some name => pure (Text.quotedString name)
    | none => pure "None"
  let count := r.parameters.length
  let names := r.parameters.map (·.name)
  let left := names.drop args.positional.length
  let values := r.parameters.zipIdx.map fun (p, i) =>
    (p.name, args.positional[i]?.or (args.named.lookup p.name))
  let named := args.named.filter fun (k, _) => !left.contains k
  let extras := Scope.macroExtras r.parameters r.body
  let caller := (named.lookup "caller").getD (.undefined "No caller defined" false)
  -- what the body takes as its caller is no argument by name any more
  let named := if extras.contains "caller" then named.filter (·.1 != "caller") else named
  if !extras.contains "kwargs" then
    match named with
    | [] => pure ()
    | (name, _) :: _ =>
      if named.any (·.1 == "caller") then
        failType ("macro " ++ shown ++ " was invoked with two values for the special caller " ++
          "argument. This is most likely a bug.")
      else failType ("macro " ++ shown ++ " takes no keyword argument " ++ Text.quotedString name)
  if !extras.contains "varargs" && count < args.positional.length then
    failType ("macro " ++ shown ++ " takes not more than " ++ toString count ++ " argument(s)")
  let rest := Value.tuple (args.positional.drop count)
  let dictionary ← newDict (named.map fun (k, v) => (.text k, v))
  return ⟨values, extras.map fun name =>
    (name, if name = "caller" then caller else if name = "kwargs" then dictionary else rest)⟩

/-- Sets the parameters that were not passed. -/
def fillParameters (f : Frame) : List Parameter → List (String × Option Value) → Eval Unit
  | p :: ps, (_, v) :: vs => do
    if v.isNone then
      setVariable f p.name (← match p.fallback with
        | some e => e.eval f .none
        | none => pure (.undefined ("parameter " ++ Text.quotedString p.name ++
            " was not provided") false))
    fillParameters f ps vs
  | _, _ => return

/-- Calls a macro. -/
def callRoutine (r : Routine) (args : Actuals) : Eval Value := do
  let passed ← passArguments r args
  let scope := Scope.ofMacro r.frame.scope r.parameters r.body
  let activation ← newActivation {
    base := r.frame.scope.length, outer := some r.frame.activation }
  let f := { r.frame.inBody scope with activation := activation, hushed := false }
  for (name, v) in passed.values do
    if let some v := v then setVariable f name v
  passed.extras.forM fun (name, v) => setVariable f name v
  enterBody f
  fillParameters f r.parameters passed.values
  return .text (← captureText (execAll f r.body))

/-- Enters a loop again. -/
def callLoop (place : Nat) (args : Actuals) : Eval Value := do
  let l ← loopAt place
  let values ← (⟨"LoopContext.__call__", 1, [("iterable", none)]⟩ : Signature).bind args
  match l.recursion with
  | none => failType "The loop must have the 'recursive' marker to be called recursively."
  | some r =>
    return .text (← runRecursion r (l.depth + 1) (values.headD .none)
      (fun f => execAll f r.body) (fun f => execAll f r.otherwise))

/-- Calls the block of a name at a depth. -/
def callBlock (name : String) (context depth : Nat) (args : Actuals) : Eval Value := do
  let _ ← (⟨"BlockReference.__call__", 1, []⟩ : Signature).bind args
  match ((← contextAt context).blocks.lookup name).bind (·[depth]?) with
  | some b => return .text (← captureText fun m => m.block b context depth)
  | none => return .none

/-- The body reads a variable of the name that is set before it begins. -/
def takesVariable (f : Frame) (name : String) : Bool :=
  f.scope.any fun layer => layer.sources.lookup name == some .parameter

/-- Runs a block. -/
def runBlock (b : PlacedBlock) (context depth : Nat) : Eval Unit := do
  let activation ← newActivation {}
  let scope := Scope.ofBlock b.block.body
  let f : Frame := { scope, activation, context, template := b.template }
  if takesVariable f "self" then setVariable f "self" (.blocks context)
  if takesVariable f "super" then
    setVariable f "super" (← replacedBlock b.block.name context depth)
  enterBody f
  execAll f b.block.body

/-- Calls a value. -/
def callValue (v : Value) (args : Actuals) : Eval Value := do
  match v with
  | .function function => callFunction function args
  | .method receiver name => callMethod receiver name args
  | .routine place => do within 4 (callRoutine (← routineAt place) args)
  | .joiner place => callJoiner place args
  | .loop place => within 4 (callLoop place args)
  | .block name context depth => within 4 (callBlock name context depth args)
  | .undefined message _ => failUndefined message
  | v => failType (Text.quotedString (← typeName v) ++ " object is not callable")

/-- Runs a template; a template with a parent hands over to it at the end. -/
def runRoot (template : String) (context : Nat) : Eval Unit := do
  match ← template? template with
  | none => fail .templateMissing template
  | some t =>
    let activation ← newActivation {}
    let f : Frame := {
      scope := Scope.ofTemplate t.body, activation, context, template
      toplevel := true, hushed := anyExtends t.body }
    if takesVariable f "self" then setVariable f "self" (.blocks context)
    enterBody f
    execAll f t.body
    -- set while the template ran, so it is read from the heap and not from `f`
    match (← activationAt activation).parent with
    | some parent => runTemplate parent context
    | none => return

end Eval

/-- The machine of a depth: what it runs can run further things, so many times inside of each
other. -/
def Machine.ofDepth (globals : Globals) (templates : String → Option Compiled) : Nat → Machine
  | 0 =>
    let tooDeep {α : Type} : Transition α := fun h => (.error Fault.tooDeep, h)
    ⟨templates, globals, fun _ _ => tooDeep, fun _ _ => tooDeep, fun _ _ _ => tooDeep,
      fun _ => tooDeep⟩
  | n + 1 =>
    let m := ofDepth globals templates n
    { template? := templates
      globals := globals
      call := fun v args => Eval.callValue v args m
      root := fun name context => Eval.within 1 (Eval.runRoot name context) m
      block := fun b context depth => Eval.within 1 (Eval.runBlock b context depth) m
      pull := fun place => Eval.within 1 (Eval.pullCursor Eval.holds place) m }

/-- How deep a machine has to be for everything that the number of frames allows. -/
def machineDepth : Nat := Eval.frameLimit + 2

end ApiScribe.Template
