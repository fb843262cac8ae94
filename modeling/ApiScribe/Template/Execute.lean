import ApiScribe.Template.Evaluate

/-!
# Executing statements

Statements print, assign, and run other templates.  A loop asks for its items one by one; what a
body prints can be captured instead of printed.
-/

namespace ApiScribe.Template
namespace Eval

/-! ### Other templates -/

/-- The template of a name. -/
def template? (name : String) : Eval (Option Compiled) := return (← read).template? name

/-- Runs a template in a context. -/
def runTemplate (name : String) (context : Nat) : Eval Unit := fun m => m.root name context

/-- The name of a template that exists. -/
def templateName (v : Value) : Eval String := do
  reading (v.checkKey ·)
  match v.string? with
  | some name =>
    if (← template? name).isSome then return name else fail .templateMissing name
  | none => fail .templateMissing (← display v)

/-- The name of the first template that exists. -/
def firstTemplate (v : Value) : Eval String := do
  if !(← isTrue v) then
    fail .templatesMissing "Tried to select from an empty list of templates."
  let names ← itemsOf v
  let found ← names.findSomeM? fun name => do
    match ← attempt (templateName name) with
    | .ok name => return some name
    | .error fault =>
      -- only a template that is not there gives way to the next one
      if fault.kind = .templateMissing ∨ fault.kind = .undefined then return none
      else Eval.ofExcept (.error fault)
  match found with
  | some name => return name
  | none =>
    let shown ← names.mapM fun name =>
      match name with
      | .undefined message _ => return message
      | name => display name
    fail .templatesMissing ("none of the templates given were found: " ++ ", ".intercalate shown)

/-- The name of the template that a value names, alone or as the first of several. -/
def anyTemplate (v : Value) : Eval String :=
  match v with
  | .text _ => templateName v
  | .markup _ => templateName v
  | .undefined message _ => failUndefined message
  | v => firstTemplate v

/-- The blocks of a template, by name. -/
def blocksByName (name : String) : Eval (List (String × List PlacedBlock)) := do
  match ← template? name with
  | some t => return t.blocks.map fun b => (b.name, [⟨name, b⟩])
  | none => return []

/-- A new context for a template. -/
def contextFor (template : String) (given : List (String × Value)) : Eval Nat := do
  newContext { name := template, given := given, blocks := ← blocksByName template }

/-- What is visible at a place: what the context hands on, and the variables around the place. -/
def visible (f : Frame) : Eval (List (String × Value)) := do
  let known := everything (← contextAt f.context)
  return (← localVariables f).foldl (fun acc (name, v) => assign name v acc) known

/-- The module that a template makes in a context. -/
def moduleIn (template : String) (context : Nat) : Eval Nat := do
  let printed ← within 5 (capture (runTemplate template context))
  let c ← contextAt context
  newModule ⟨template, printed, c.exported.filterMap fun name =>
    (c.assigned.lookup name).map (name, ·)⟩

/-- The module of a template: one of its own if it sees the place, else the one that all share. -/
def moduleOf (f : Frame) (template : String) (withContext : Bool) : Eval Nat := do
  if withContext then moduleIn template (← contextFor template (← visible f))
  else match (← get).imported.lookup template with
    | some place => return place
    | none =>
      let place ← moduleIn template (← contextFor template [])
      modify fun h => { h with imported := (template, place) :: h.imported }
      return place

/-- Makes a template the parent of the running one. -/
def inherit (f : Frame) (template : String) : Eval Unit := do
  let blocks ← blocksByName template
  let c ← contextAt f.context
  setContext f.context { c with
    blocks := blocks.foldl (fun acc (name, found) =>
      assign name ((acc.lookup name).getD [] ++ found) acc) c.blocks }
  let a ← activationAt f.activation
  setActivation f.activation { a with parent := some template }

/-- The context of a block: the running one, or one that also sees the place. -/
def blockContext (f : Frame) (isScoped : Bool) : Eval Nat := do
  if isScoped then
    let c ← contextAt f.context
    newContext { name := c.name, given := ← visible f, blocks := c.blocks }
  else return f.context

/-! ### Loops -/

/-- Runs a step for each item, and tells whether there was one; `any` tells it of the items
before. -/
def forItems (next : Eval (Option Value)) (step : Value → Eval Unit) : Nat → Bool → Eval Bool
  | 0, any => return any
  | fuel + 1, any => do
    match ← next with
    | none => return any
    | some v =>
      step v
      forItems next step fuel true

mutual

/-- The value of what a target was assigned. -/
def readTarget (f : Frame) : Target → Eval Value
  | .name name => readVariable f name
  | .cell owner name => do
    match ← readVariable f owner with
    | .cells place => return ((← cellsAt place).lookup name).getD .none
    | _ => return .none
  | .tuple targets => return .tuple (← readTargets f targets)

@[inherit_doc readTarget]
def readTargets (f : Frame) : List Target → Eval (List Value)
  | [] => return []
  | t :: ts => do
    let v ← readTarget f t
    return v :: (← readTargets f ts)

end

/-- What the condition of a loop makes of an item: the value of the target, if it holds. -/
def holds (f : Frame) (target : Target) (test : Expr) (item : Value) : Eval (Option Value) := do
  assignTo f item target
  if ← isTrue (← test.eval f .none) then return some (← readTarget f target) else return none

/-- A cursor over the items of a loop; the condition of the loop has variables of its own. -/
def loopCursor (f : Frame) (target : Target) (test : Option Expr) (source : Value) :
    Eval (Value × Nat) := do
  let cursor ← cursorOf source
  match test with
  | none => return (source, cursor)
  | some e =>
    let scope := Scope.ofTest f.scope target test
    let activation ← newActivation { base := f.scope.length, outer := some f.activation }
    let inner := { f.inBody scope with activation := activation }
    enterBody inner
    -- the condition is asked as the items are drawn, so it sees what the body has changed
    let place ← newCursor (.working (.condition inner target e) cursor)
    return (.cursor place, place)

/-- Runs a loop over the items of a value. -/
def runLoop (f : Frame) (r : Recursion) (recursive : Bool) (depth : Nat) (source : Value)
    (body otherwise : Frame → Eval Unit) : Eval Unit := do
  let loopVariable := Scope.hasLoopVariable r.body r.otherwise recursive
  let inner := f.inBody (Scope.ofLoop f.scope r.target r.body loopVariable)
  let run (v : Value) : Eval Unit := do
    assignTo inner v r.target
    enterBody inner
    body inner
  let (source, cursor) ← loopCursor f r.target r.test source
  let any ← if loopVariable then do
      let place ← newLoop {
        source := source, cursor := cursor, depth := depth
        recursion := if recursive then some { r with frame := f } else none }
      forItems (advance place) (fun v => do
        setVariable inner "loop" (.loop place)
        run v) itemLimit false
    else forItems (next? cursor) run itemLimit false
  leaveBody inner
  if !any && !r.otherwise.isEmpty then
    inBody f (Scope.ofBody f.scope r.otherwise) otherwise

/-- Runs a loop that can be entered again, and returns what it prints. -/
def runRecursion (r : Recursion) (depth : Nat) (source : Value)
    (body otherwise : Frame → Eval Unit) : Eval String := do
  let activation ← newActivation {
    base := r.frame.scope.length, outer := some r.frame.activation }
  let f := { r.frame with activation := activation, toplevel := false }
  captureText (runLoop f r true depth source body otherwise)

/-- Prints the value of a filtered body. -/
def printFiltered (v : Value) : Eval Unit := do
  match v.string? with
  | some s => print s
  | none => printAll [.other (← typeName v)]

end Eval

open Eval

/-- Prints what is held back. -/
def printHeld (held : Option String) : Eval Unit := held.forM print

/-- Prints pieces of output.  Texts that are known beforehand are held back until the next one that
is not, and printed together. -/
def printPieces (f : Frame) (held : Option String) : List Piece → Eval Unit
  | [] => printHeld held
  | .data s :: rest => printPieces f (some (held.getD "" ++ s)) rest
  | .known s _ :: rest => printPieces f (some (held.getD "" ++ s)) rest
  | .print e :: rest => do
    printHeld held
    print (← display (← e.eval f .none))
    printPieces f none rest

/-- Assigns the values of bindings, which do not see each other. -/
def bindAll (outer inner : Frame) : List (Target × Expr) → Eval Unit
  | [] => return
  | (target, e) :: rest => do
    assignTo inner (← e.eval outer .none) target
    bindAll outer inner rest

/-- Refuses a cell of something that is no namespace. -/
def checkOwners (f : Frame) (owners : List String) : Eval Unit :=
  owners.forM fun owner => do
    match ← readVariable f owner with
    | .cells _ => return
    | _ => fail .runtime "cannot assign attribute on non-namespace object"

mutual

/-- Executes a statement. -/
def Stmt.exec (f : Frame) : Stmt → Eval Unit
  | .output pieces => do
    -- outside of its blocks a template with a parent prints nothing
    if !(f.hushed && (← hasParent f)) then printPieces f none pieces
  | .loop target source body otherwise test recursive _ => do
    let v ← source.eval f .none
    let r : Recursion := ⟨f, target, body, otherwise, test⟩
    if recursive then
      print (← runRecursion r 0 v (fun g => execAll g body) (fun g => execAll g otherwise))
    else runLoop f r false 0 v (fun g => execAll g body) (fun g => execAll g otherwise)
  | .branch test body more otherwise => do
    if ← isTrue (← test.eval f .none) then execAll f body
    else if !(← execMore f more) then execAll f otherwise
  | .assign target e => do
    checkOwners f target.owners
    assignTo f (← e.eval f .none) target
    publish f target.names
  | .capture target filter body => do
    let inner := { f.inBody (Scope.ofBody f.scope body) with hushed := false }
    enterBody inner
    let text ← captureText (execAll inner body)
    let v ← match filter with
      | some e => e.eval inner (.text text)
      | none => pure (.text text)
    assignTo f v target
    publish f target.names
    leaveBody inner
  | .bind bindings body => do
    let inner := f.inBody (Scope.ofBindings f.scope bindings body)
    enterBody inner
    bindAll f inner bindings
    execAll inner body
    leaveBody inner
  | .scope body => inBody f (Scope.ofBody f.scope body) fun inner => execAll inner body
  | .macroDef name parameters body _ => do
    setVariable f name (← newRoutine ⟨some name, parameters, body, f⟩)
    publish f [name]
  | .callBlock call parameters body _ => do
    let caller ← newRoutine ⟨none, parameters, body, f⟩
    match call with
    | .call g args named more moreNamed =>
      let g ← g.eval f .none
      let actuals ← gather callFunctionName (evalAll f .none args) (evalNamed f .none named)
        (evalSome f .none more) (evalSome f .none moreNamed)
      if (actuals.named.lookup "caller").isSome then
        failType (callFunctionName ++ " got multiple values for keyword argument 'caller'")
      let v ← Eval.call g { actuals with named := actuals.named ++ [("caller", caller)] }
      print (← display v)
    | _ => return
  | .filterBlock filter body => do
    let inner := f.inBody (Scope.ofFiltered f.scope filter body)
    enterBody inner
    let text ← captureText (execAll inner body)
    printFiltered (← filter.eval inner (.text text))
    leaveBody inner
  | .block name _ isScoped required _ => do
    -- a template with a parent leaves the place of its blocks to the parent
    if !(f.toplevel && (← hasParent f)) then
      let found := ((← contextAt f.context).blocks.lookup name).getD []
      let context ← blockContext f isScoped
      if required && found.length ≤ 1 then
        fail .runtime ("Required block " ++ Text.quotedString name ++ " not found")
      match found with
      | b :: _ => fun m => m.block b context 0
      | [] => return
  | .extend e _ => do
    if ← hasParent f then fail .runtime "extended multiple times"
    inherit f (← templateName (← e.eval f .none))
  | .insert e ignoreMissing withContext => do
    match ← attempt (do anyTemplate (← e.eval f .none)) with
    | .error fault =>
      if ignoreMissing && (fault.kind = .templateMissing || fault.kind = .templatesMissing) then
        return
      else Eval.ofExcept (.error fault)
    | .ok name =>
      if withContext then runTemplate name (← contextFor name (← visible f))
      -- a template that does not see the place has run once, and prints the same again
      else printAll (← moduleAt (← moduleOf f name false)).printed
  | .importAs e name withContext => do
    let template ← templateName (← e.eval f .none)
    let v := Value.module (← moduleOf f template withContext)
    setVariable f name v
    publishHidden f name v
  | .importFrom e names withContext line => do
    let template ← templateName (← e.eval f .none)
    let found ← moduleAt (← moduleOf f template withContext)
    for (name, target) in names do
      let v := (found.members.lookup name).getD (.undefined ("the template " ++
        Text.quotedString template ++ " (imported on line " ++ toString line ++ " in " ++
        Text.quotedString f.template ++ ") does not export the requested name " ++
        Text.quotedString name) false)
      setVariable f target v
      publishHidden f target v

/-- Executes statements one after the other. -/
def execAll (f : Frame) : List Stmt → Eval Unit
  | [] => return
  | s :: ss => do
    s.exec f
    execAll f ss

/-- Executes the first of further branches whose condition holds, and tells whether there is
one. -/
def execMore (f : Frame) : List (Expr × List Stmt) → Eval Bool
  | [] => return false
  | (test, body) :: rest => do
    if ← isTrue (← test.eval f .none) then
      execAll f body
      return true
    else execMore f rest

end

end ApiScribe.Template
