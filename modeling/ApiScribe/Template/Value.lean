import ApiScribe.Decimal.Shortest
import ApiScribe.Template.Compiled
import ApiScribe.Template.Fault

/-!
# Values

A template computes with plain values and with things that change: lists, dictionaries, namespaces,
cursors, loops.  A thing that changes lives in the `Heap` and the value only says where, so that
two variables can hold the same list.  A computation on values reads and changes the heap; it may
end in a fault, and what it changed before stays changed.
-/

namespace ApiScribe.Template

/-- What a view of a dictionary shows. -/
inductive DictPart where
  | items
  | keys
  | values
  deriving DecidableEq, Repr

/-- The functions that every template knows. -/
inductive Function where
  | range
  | dict
  | cells
  | joiner
  | cycler
  | lipsum
  deriving DecidableEq, Repr

/-- A value of a template. -/
inductive Value where
  | none
  | bool (b : Bool)
  | int (n : Int)
  | float (x : Float)
  /-- Not a number.  It is not equal to itself, but it is the same as itself. -/
  | nan (id : Nat)
  | complex (re im : Float)
  | text (s : String)
  /-- A text that needs no escaping. -/
  | markup (s : String)
  | tuple (items : List Value)
  /-- A group of items that share a key. -/
  | group (key items : Value)
  /-- The numbers from `start` to before `stop`. -/
  | range (start stop step : Int)
  | list (place : Nat)
  | dict (place : Nat)
  | dictView (part : DictPart) (place : Nat)
  | cells (place : Nat)
  | cursor (place : Nat)
  | joiner (place : Nat)
  | cycler (place : Nat)
  | loop (place : Nat)
  | routine (place : Nat)
  | module (place : Nat)
  /-- The blocks of a template, by name. -/
  | blocks (context : Nat)
  /-- One of the blocks of a name; those after it are the ones it replaces. -/
  | block (name : String) (context depth : Nat)
  | function (f : Function)
  | method (receiver : Value) (name : String)
  /-- Nothing; using it is a fault with the message.  A lenient nothing may be printed. -/
  | undefined (message : String) (lenient : Bool)
  deriving Inhabited

/-- The arguments of a call. -/
structure Actuals where
  positional : List Value := []
  named : List (String × Value) := []
  deriving Inhabited

/-- The arguments with another one before them. -/
def Actuals.after (v : Value) (args : Actuals) : Actuals :=
  { args with positional := v :: args.positional }

/-- Where code runs. -/
structure Frame where
  scope : Scope
  /-- The place of the variables. -/
  activation : Nat
  /-- The place of the data. -/
  context : Nat
  /-- The name of the template that the code stands in. -/
  template : String
  toplevel : Bool := false
  hushed : Bool := false
  deriving Inhabited

namespace Frame

/-- The level of the innermost variables. -/
def level (f : Frame) : Nat := f.scope.length - 1

/-- The frame of a body with variables of its own. -/
def inBody (f : Frame) (scope : Scope) : Frame := { f with scope := scope, toplevel := false }

end Frame

/-- The variables of running code.  Variables of lower levels belong to the code around it. -/
structure Activation where
  base : Nat := 0
  outer : Option Nat := none
  values : List ((Nat × String) × Value) := []
  /-- The template that takes over at the end. -/
  parent : Option String := none
  deriving Inhabited

/-- A block and the template that it stands in. -/
structure PlacedBlock where
  template : String
  block : Block
  deriving Inhabited

/-- The data of a running template. -/
structure Context where
  /-- The name of the template. -/
  name : String := ""
  /-- What was handed to the template. -/
  given : List (String × Value) := []
  /-- What the template has assigned at its top level. -/
  assigned : List (String × Value) := []
  /-- What the template makes visible to others. -/
  exported : List String := []
  /-- The blocks of every name, each before those that it replaces. -/
  blocks : List (String × List PlacedBlock) := []
  deriving Inhabited

/-- What becomes of the items of a source, one after the other. -/
inductive Task where
  /-- The part of each item that an attribute leads to; the items themselves if it has no parts. -/
  | follow (parts : List Value) (fallback : Value)
  /-- A filter of each item. -/
  | filtered (filter : Value) (args : Actuals)
  /-- The items of which a part passes a test, or those of which it does not; without a test the
  part has to count as true. -/
  | keep (wanted : Bool) (parts : List Value) (test : Option Value) (args : Actuals)
  /-- The items of which no earlier one has the same key. -/
  | unique (caseMatters : Bool) (parts : List Value) (seen : List Value)
  /-- Lists of so many items; `held` are those of the next one. -/
  | batch (size fallback : Value) (held : List Value)
  /-- The items for which the condition of a loop holds. -/
  | condition (frame : Frame) (target : Target) (test : Expr)

/-- Something that gives values one after the other. -/
inductive Cursor where
  /-- The values that are left; `kind` names the type. -/
  | values (kind : String) (rest : List Value)
  /-- So many numbers from `next` on. -/
  | numbers (next : Int) (left : Nat) (step : Int)
  /-- The items of a list from an index on, which may still change. -/
  | itemsFrom (place index : Nat)
  /-- The items of a list before an index, from the last one on. -/
  | itemsBefore (place index : Nat)
  /-- A walk through a dictionary that had so many pairs when it began. -/
  | pairs (part : DictPart) (place size taken : Nat) (backwards : Bool)
  /-- A filter that has not begun; the value is the first argument. -/
  | waiting (filter : String) (args : Actuals)
  /-- A filter, or the condition of a loop, at work on the items of another cursor. -/
  | working (task : Task) (source : Nat)
  /-- Another item is just being found. -/
  | busy

instance : Inhabited Cursor := ⟨.values "" []⟩

/-- A loop that can be entered again from its body. -/
structure Recursion where
  frame : Frame
  target : Target
  body : List Stmt
  otherwise : List Stmt
  test : Option Expr

/-- A running loop. -/
structure LoopState where
  /-- What is looped over. -/
  source : Value
  /-- The place of the cursor that gives the items. -/
  cursor : Nat
  depth : Nat
  /-- The number of items taken. -/
  taken : Nat := 0
  length : Option Nat := none
  before : Option Value := none
  current : Option Value := none
  /-- An item that was looked at and not yet taken. -/
  after : Option Value := none
  changed : Option (List Value) := none
  recursion : Option Recursion := none

instance : Inhabited LoopState := ⟨{ source := .none, cursor := 0, depth := 0 }⟩

/-- A macro, or the body of a call. -/
structure Routine where
  name : Option String
  parameters : List Parameter
  body : List Stmt
  /-- Where it was defined. -/
  frame : Frame
  deriving Inhabited

/-- A piece of what is printed: a text, or a value of another type, which is found out when the
pieces are put together. -/
inductive Printed where
  | text (s : String)
  | other (type : String)
  deriving Inhabited, DecidableEq, Repr

/-- The text of what was printed. -/
def joinPrinted (pieces : List Printed) : Except Fault String := do
  let texts ← pieces.zipIdx.mapM fun (piece, i) =>
    match piece with
    | .text s => return s
    | .other type => .error ⟨.type, "sequence item " ++ toString i ++
        ": expected str instance, " ++ type ++ " found"⟩
  return String.join texts

/-- A template that was imported. -/
structure Module where
  name : String
  /-- What the template printed. -/
  printed : List Printed
  members : List (String × Value)
  deriving Inhabited

/-- Everything that changes. -/
structure Heap where
  lists : Array (List Value) := #[]
  dicts : Array (List (Value × Value)) := #[]
  cells : Array (List (String × Value)) := #[]
  cursors : Array Cursor := #[]
  joiners : Array (Value × Bool) := #[]
  cyclers : Array (List Value × Nat) := #[]
  loops : Array LoopState := #[]
  routines : Array Routine := #[]
  modules : Array Module := #[]
  contexts : Array Context := #[]
  activations : Array Activation := #[]
  /-- The modules of the templates that were imported without data. -/
  imported : List (String × Nat) := []
  /-- The number of values so far that are not a number; the data holds only one of them. -/
  nans : Nat := 1
  /-- The number of frames in use. -/
  depth : Nat := 0
  /-- What was printed, the last piece first. -/
  printed : List Printed := []
  deriving Inhabited

/-- A step from one heap to another: its value or its fault, and the heap it leaves. -/
abbrev Transition (α : Type) := ExceptT Fault (StateM Heap) α

/-- The values of the names that every template knows. -/
abbrev Globals : Type := String → Option Value

/-- What running code can ask for. -/
structure Machine where
  /-- The template of a name. -/
  template? : String → Option Compiled
  /-- What every template knows. -/
  globals : Globals
  /-- Calls a value. -/
  call : Value → Actuals → Transition Value
  /-- Runs a template in a context. -/
  root : String → Nat → Transition Unit
  /-- Runs a block of a depth in a context. -/
  block : PlacedBlock → Nat → Nat → Transition Unit
  /-- The next value of the cursor at a place, which is at work on another one. -/
  pull : Nat → Transition (Option Value)

/-- A computation on values. -/
abbrev Eval (α : Type) := ReaderT Machine (ExceptT Fault (StateM Heap)) α

namespace Eval

variable {α : Type}

/-- Ends with a fault. -/
def fail (kind : FaultKind) (message : String) : Eval α := throw ⟨kind, message⟩

/-- The outcome of a computation that leaves the heap alone. -/
def ofExcept (x : Except Fault α) : Eval α := fun _ h => (x, h)

/-- A computation that leaves the heap alone. -/
def reading (f : Heap → Except Fault α) : Eval α := fun _ h => (f h, h)

/-- A computation that has no fault. -/
def making (f : Heap → α × Heap) : Eval α := fun _ h =>
  let (a, h) := f h
  (.ok a, h)

/-- The outcome of a computation: its value or its fault. -/
def attempt (x : Eval α) : Eval (Except Fault α) := fun m h =>
  let (r, h) := x m h
  (.ok r, h)

/-- The most frames that can be in use at a time. -/
def frameLimit : Nat := 980

/-- A computation that uses so many frames more. -/
def within (frames : Nat) (x : Eval α) : Eval α := fun m h =>
  let before := h.depth
  -- refused before it begins, so nothing of the computation has been done
  if frameLimit < before + frames then (.error Fault.tooDeep, h)
  else
    let (r, h) := x m { h with depth := before + frames }
    (r, { h with depth := before })

/-- Prints pieces. -/
def printAll (pieces : List Printed) : Eval Unit :=
  modify fun h => { h with printed := pieces.reverse ++ h.printed }

/-- Prints a text. -/
def print (s : String) : Eval Unit := printAll [.text s]

/-- What a computation prints, which is then not printed. -/
def capture (x : Eval Unit) : Eval (List Printed) := fun m h =>
  let before := h.printed
  let (r, h) := x m { h with printed := [] }
  (r.map fun () => h.printed.reverse, { h with printed := before })

/-- The text of what a computation prints, which is then not printed. -/
def captureText (x : Eval Unit) : Eval String := do
  let pieces ← capture x
  ofExcept (joinPrinted pieces)

/-! ### Making things -/

/-- A float, which may be not a number. -/
def ofFloat (x : Float) : Eval Value := making fun h =>
  if x.isNaN then (.nan h.nans, { h with nans := h.nans + 1 }) else (.float x, h)

/-- A new list. -/
def newList (items : List Value) : Eval Value := making fun h =>
  (.list h.lists.size, { h with lists := h.lists.push items })

/-- A new dictionary. -/
def newDict (pairs : List (Value × Value)) : Eval Value := making fun h =>
  (.dict h.dicts.size, { h with dicts := h.dicts.push pairs })

/-- A new namespace. -/
def newCells (members : List (String × Value)) : Eval Value := making fun h =>
  (.cells h.cells.size, { h with cells := h.cells.push members })

/-- A new cursor and its place. -/
def newCursor (c : Cursor) : Eval Nat := making fun h =>
  (h.cursors.size, { h with cursors := h.cursors.push c })

/-- A new activation and its place. -/
def newActivation (a : Activation) : Eval Nat := making fun h =>
  (h.activations.size, { h with activations := h.activations.push a })

/-- A new context and its place. -/
def newContext (c : Context) : Eval Nat := making fun h =>
  (h.contexts.size, { h with contexts := h.contexts.push c })

/-- A new loop and its place. -/
def newLoop (l : LoopState) : Eval Nat := making fun h =>
  (h.loops.size, { h with loops := h.loops.push l })

/-- A new macro. -/
def newRoutine (r : Routine) : Eval Value := making fun h =>
  (.routine h.routines.size, { h with routines := h.routines.push r })

/-- A new module and its place. -/
def newModule (m : Module) : Eval Nat := making fun h =>
  (h.modules.size, { h with modules := h.modules.push m })

/-! ### Looking at things and changing them -/

/-- The items of a list. -/
def listAt (place : Nat) : Eval (List Value) := return (← get).lists.getD place []

/-- Gives a list other items. -/
def setList (place : Nat) (items : List Value) : Eval Unit :=
  modify fun h => { h with lists := h.lists.setIfInBounds place items }

/-- The pairs of a dictionary. -/
def dictAt (place : Nat) : Eval (List (Value × Value)) := return (← get).dicts.getD place []

/-- Gives a dictionary other pairs. -/
def setDict (place : Nat) (pairs : List (Value × Value)) : Eval Unit :=
  modify fun h => { h with dicts := h.dicts.setIfInBounds place pairs }

/-- The members of a namespace. -/
def cellsAt (place : Nat) : Eval (List (String × Value)) := return (← get).cells.getD place []

/-- A cursor. -/
def cursorAt (place : Nat) : Eval Cursor := return (← get).cursors.getD place default

/-- Changes a cursor. -/
def setCursor (place : Nat) (c : Cursor) : Eval Unit :=
  modify fun h => { h with cursors := h.cursors.setIfInBounds place c }

/-- A running loop. -/
def loopAt (place : Nat) : Eval LoopState := return (← get).loops.getD place default

/-- Changes a running loop. -/
def setLoop (place : Nat) (l : LoopState) : Eval Unit :=
  modify fun h => { h with loops := h.loops.setIfInBounds place l }

/-- An activation. -/
def activationAt (place : Nat) : Eval Activation := return (← get).activations.getD place default

/-- Changes an activation. -/
def setActivation (place : Nat) (a : Activation) : Eval Unit :=
  modify fun h => { h with activations := h.activations.setIfInBounds place a }

/-- A context.  Code never runs without one. -/
def contextAt (place : Nat) : Eval Context := do
  match (← get).contexts[place]? with
  | some c => return c
  | none => fail .runtime "no context"

/-- Changes a context. -/
def setContext (place : Nat) (c : Context) : Eval Unit :=
  modify fun h => { h with contexts := h.contexts.setIfInBounds place c }

/-- A macro. -/
def routineAt (place : Nat) : Eval Routine := return (← get).routines.getD place default

/-- A module. -/
def moduleAt (place : Nat) : Eval Module := return (← get).modules.getD place default

end Eval

/-- Sets the value of a key: a new key comes last, an old one keeps its place. -/
def assign {κ ν : Type} [BEq κ] (key : κ) (value : ν) : List (κ × ν) → List (κ × ν)
  | [] => [(key, value)]
  | (k, v) :: rest => if k == key then (k, value) :: rest else (k, v) :: assign key value rest

end ApiScribe.Template
