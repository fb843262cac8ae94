import ApiScribe.Template.Method

/-!
# Variables

A variable of running code is found in its activation or in one around it.  When a body with
variables of its own begins, each of them gets the value that its scope says; what a template
assigns at its top level is also kept in its context, where others can see it.
-/

namespace ApiScribe.Template
namespace Eval

/-- The value of a variable of a level, in an activation or in one around it. -/
def variableIn? (activations : Array Activation) (level : Nat) (name : String) :
    Nat → Nat → Option Value
  | 0, _ => none
  | fuel + 1, place =>
    let a := activations.getD place default
    if a.base ≤ level then a.values.lookup (level, name)
    else a.outer.bind (variableIn? activations level name fuel)

/-- The value of a variable of a level. -/
def lookupVariable? (f : Frame) (level : Nat) (name : String) : Eval (Option Value) := do
  let activations := (← get).activations
  return variableIn? activations level name (activations.size + 1) f.activation

/-- Sets a variable of the innermost level. -/
def setVariable (f : Frame) (name : String) (v : Value) : Eval Unit := do
  let a ← activationAt f.activation
  setActivation f.activation { a with values := assign (f.level, name) v a.values }

/-- Takes the value from a variable of the innermost level. -/
def clearVariable (f : Frame) (name : String) : Eval Unit := do
  let a ← activationAt f.activation
  setActivation f.activation { a with values := a.values.filter (·.1 != (f.level, name)) }

/-- Sets a variable of the innermost level, or takes its value from it. -/
def putVariable (f : Frame) (name : String) (v : Option Value) : Eval Unit :=
  match v with
  | some v => setVariable f name v
  | none => clearVariable f name

/-- The functions by name: all that templates know unless more is said. -/
def function? : Globals
  | "range" => some (.function .range)
  | "dict" => some (.function .dict)
  | "lipsum" => some (.function .lipsum)
  | "cycler" => some (.function .cycler)
  | "joiner" => some (.function .joiner)
  | "namespace" => some (.function .cells)
  | _ => none

/-- The value of a name in a context: what the template has assigned comes before what it was
given, and this before what every template knows. -/
def find? (globals : Globals) (c : Context) (name : String) : Option Value :=
  ((c.assigned.lookup name).or (c.given.lookup name)).or (globals name)

/-- Looks up a name in a context. -/
def lookUp (c : Context) (name : String) : Eval (Option Value) :=
  return find? (← read).globals c name

/-- All that a context hands on. -/
def everything (c : Context) : List (String × Value) :=
  c.assigned.foldl (fun acc (name, v) => assign name v acc) c.given

/-- Begins a body: its variables get their values. -/
def enterBody (f : Frame) : Eval Unit := do
  match f.scope with
  | [] => return
  | layer :: _ =>
    let context ← contextAt f.context
    for (name, source) in layer.sources do
      match source with
      | .parameter => pure ()
      | .data => putVariable f name (← lookUp context name)
      | .copy level => putVariable f name (← lookupVariable? f level name)
      | .unset => clearVariable f name

/-- Ends a body: its variables lose their values. -/
def leaveBody (f : Frame) : Eval Unit := do
  match f.scope with
  | [] => return
  | layer :: _ => layer.sources.forM fun (name, _) => clearVariable f name

/-- A body with variables of its own. -/
def inBody (f : Frame) (scope : Scope) (body : Frame → Eval Unit) : Eval Unit := do
  let inner := f.inBody scope
  enterBody inner
  body inner
  leaveBody inner

/-- The value of a name. -/
def readVariable (f : Frame) (name : String) : Eval Value := do
  let nothing : Value := .undefined (Text.quotedString name ++ " is undefined") false
  match f.scope.level? name with
  | some level => return (← lookupVariable? f level name).getD nothing
  | none => return nothing

/-- The variables that have been set around a place, the innermost ones first. -/
def localVariables (f : Frame) : Eval (List (String × Value)) := do
  let rec names (seen : List String) : Scope → List String
    | [] => seen
    | layer :: outer =>
      -- sorted, since the variables of one layer have no order of their own
      names (seen ++ (layer.stores.filter fun n => !seen.contains n).mergeSort
        fun a b => decide (a ≤ b)) outer
  (names [] f.scope).filterMapM fun name => do
    match f.scope.level? name with
    | some level => return (← lookupVariable? f level name).map (name, ·)
    | none => return none

/-- The template that takes over at the end of the running one. -/
def parentIn? (activations : Array Activation) : Nat → Nat → Option String
  | 0, _ => none
  | fuel + 1, place =>
    let a := activations.getD place default
    match a.parent, a.outer with
    | some name, _ => some name
    | none, some outer => parentIn? activations fuel outer
    | none, none => none

/-- The running template has a parent. -/
def hasParent (f : Frame) : Eval Bool := do
  let activations := (← get).activations
  return (parentIn? activations (activations.size + 1) f.activation).isSome

/-! ### Assignment -/

/-- A name that others do not see. -/
def isHidden (name : String) : Bool := name.toList.head? == some '_'

/-- Keeps what is assigned at the top level. -/
def publish (f : Frame) (names : List String) : Eval Unit := do
  if f.toplevel then
    for name in names do
      match f.scope.level? name with
      | none => pure ()
      | some level =>
        if let some v ← lookupVariable? f level name then
          let c ← contextAt f.context
          setContext f.context { c with
            assigned := assign name v c.assigned
            exported := if isHidden name then c.exported else union c.exported [name] }

/-- Keeps what is imported at the top level, where others do not see it. -/
def publishHidden (f : Frame) (name : String) (v : Value) : Eval Unit := do
  if f.toplevel then
    let c ← contextAt f.context
    setContext f.context { c with
      assigned := assign name v c.assigned
      exported := if isHidden name then c.exported else c.exported.filter (· != name) }

/-- Takes up to so many items from a cursor. -/
def takeItems (place : Nat) : Nat → Eval (List Value)
  | 0 => return []
  | n + 1 => do
    match ← next? place with
    | none => return []
    | some v => return v :: (← takeItems place n)

/-- The items of a value that is taken apart into so many. -/
def unpack (v : Value) (count : Nat) : Eval (List Value) := do
  match ← attempt (cursorOf v) with
  | .error fault =>
    if fault.kind = .type then
      failType ("cannot unpack non-iterable " ++ (← typeName v) ++ " object")
    else ofExcept (.error fault)
  | .ok place =>
    let items ← takeItems place (count + 1)
    if items.length < count then
      fail .value ("not enough values to unpack (expected " ++ toString count ++ ", got " ++
        toString items.length ++ ")")
    else if count < items.length then
      fail .value ("too many values to unpack (expected " ++ toString count ++ ")")
    else return items

mutual

/-- Assigns a value to a target. -/
def assignTo (f : Frame) (v : Value) : Target → Eval Unit
  | .name name => setVariable f name v
  | .cell owner name => do
    match ← readVariable f owner with
    | .cells place =>
      modify fun h => { h with
        cells := h.cells.setIfInBounds place (assign name v (h.cells.getD place [])) }
    | _ => fail .runtime "cannot assign attribute on non-namespace object"
  | .tuple targets => do assignAll f (← unpack v targets.length) targets

/-- Assigns values to targets, one to each. -/
def assignAll (f : Frame) : List Value → List Target → Eval Unit
  | v :: vs, t :: ts => do
    assignTo f v t
    assignAll f vs ts
  | _, _ => return

end

end Eval
end ApiScribe.Template
