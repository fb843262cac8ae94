import ApiScribe.Generation.Rendered
import ApiScribe.Template.Machine

/-!
# Rendering templates against data

Rendering gives the text of a template, and the data as the template left them: what it changes
inside of a list or record stays changed.

A template that is imported without data is run once and its module is shared: by all templates
that import it, and by all renderings that pass the memory of one to the next.  What a macro of the
module changes there is seen by whoever uses the module later.
-/

namespace ApiScribe.Template

mutual

/-- Data as a value. -/
def Data.load : Data → Eval Value
  | .none => return .none
  | .bool b => return .bool b
  | .int n => return .int n
  | .float x => return if x.isNaN then .nan 0 else .float x
  | .text s => return .text s
  | .list items => do Eval.newList (← loadAll items)
  | .tuple items => return .tuple (← loadAll items)
  | .record members => do Eval.newDict ((← loadMembers members).map fun (k, v) => (.text k, v))

/-- Data as values. -/
def loadAll : List Data → Eval (List Value)
  | [] => return []
  | d :: ds => do
    let v ← Data.load d
    return v :: (← loadAll ds)

/-- The members of a record as values. -/
def loadMembers : List (String × Data) → Eval (List (String × Value))
  | [] => return []
  | (name, d) :: rest => do
    let v ← Data.load d
    return (name, v) :: (← loadMembers rest)

end

/-- The depth to which values are turned back into data. -/
def dataDepth : Nat := 900

/-- A value as data.  What is no data, and what is inside of itself, is left out; `open_` holds
the lists and records around the value. -/
def Value.unload (h : Heap) : Nat → List Value → Value → Data
  | 0, _, _ => .none
  | fuel + 1, open_, v =>
    let inside (v : Value) : Bool := open_.any v.same
    match v with
    | .bool b => .bool b
    | .int n => .int n
    | .float x => .float x
    | .nan _ => .float (0.0 / 0.0)
    | .text s => .text s
    | .markup s => .text s
    | .tuple items => .tuple (items.map (unload h fuel open_))
    | .list place =>
      if inside v then .none
      else .list ((h.lists.getD place []).map (unload h fuel (v :: open_)))
    | .dict place =>
      if inside v then .none
      else .record ((h.dicts.getD place []).filterMap fun (k, x) =>
        k.string?.map fun name => (name, unload h fuel (v :: open_) x))
    | _ => .none

/-- The variables of data. -/
def givenBy (d : Data) : Eval (List (String × Value)) :=
  match d with
  | .record members => loadMembers members
  | d => do
    let pairs ← Eval.pairArguments "dict" ⟨[← Data.load d], []⟩ []
    return pairs.filterMap fun (k, v) => k.string?.map (·, v)

/-- The data of a template's variables. -/
def takenBack (h : Heap) (d : Data) (given : List (String × Value)) : Data :=
  match d with
  | .record _ => .record (given.map fun (name, v) => (name, v.unload h dataDepth []))
  | d => d

/-- What renderings of the same templates leave to later ones. -/
abbrev Memory := Heap

/-- What is left of a rendering: the modules of the templates it imported without data, and all
that is reached from them.  A rendering without such a module leaves nothing. -/
def Heap.kept (h : Heap) : Memory :=
  if h.imported.isEmpty then {} else { h with printed := [], depth := 0 }

/-- Renders the template of a name where every template knows the given names. -/
def renderIn (globals : Globals) (templates : String → Option Compiled) (name : String)
    (data : Data) (memory : Memory) : Except Fault Rendered × Memory :=
  let run : Eval (String × List (String × Value)) := do
    let given ← givenBy data
    let context ← Eval.contextFor name given
    return (← Eval.captureText (Eval.within 1 (Eval.runTemplate name context)), given)
  let (outcome, h) := run (Machine.ofDepth globals templates machineDepth) memory
  (outcome.map fun (text, given) => ⟨text, takenBack h data given⟩, h.kept)

/-- Renders the template of a name. -/
def render (templates : String → Option Compiled) (name : String) (data : Data)
    (memory : Memory) : Except Fault Rendered × Memory :=
  renderIn Eval.function? templates name data memory

end ApiScribe.Template
