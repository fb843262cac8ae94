import ApiScribe.Template.Iterate

/-!
# Members and elements

`a.b` asks for the attribute `b` first and then for the element of that key; `a['b']` asks in the
opposite order.  What a value has neither of is nothing, with a message that names the value and
what it lacks; only a further use of that is a fault.

A value has the attributes that are listed here.  Those whose names start with two underscores, and
the rarer ones of numbers, functions and generators, are left out, so a value seems to lack them.
-/

namespace ApiScribe.Template

/-- The names of the methods of texts. -/
def textMethods : List String :=
  ["capitalize", "casefold", "center", "count", "encode", "endswith", "expandtabs", "find",
    "format", "format_map", "index", "isalnum", "isalpha", "isascii", "isdecimal", "isdigit",
    "isidentifier", "islower", "isnumeric", "isprintable", "isspace", "istitle", "isupper", "join",
    "ljust", "lower", "lstrip", "maketrans", "partition", "removeprefix", "removesuffix",
    "replace", "rfind", "rindex", "rjust", "rpartition", "rsplit", "rstrip", "split", "splitlines",
    "startswith", "strip", "swapcase", "title", "translate", "upper", "zfill"]

/-- The names of the methods of lists. -/
def listMethods : List String :=
  ["append", "clear", "copy", "count", "extend", "index", "insert", "pop", "remove", "reverse",
    "sort"]

/-- The names of the methods of dictionaries. -/
def dictMethods : List String :=
  ["clear", "copy", "fromkeys", "get", "items", "keys", "pop", "popitem", "setdefault", "update",
    "values"]

/-- The names of the methods of tuples. -/
def tupleMethods : List String := ["count", "index"]

/-- The names of the methods of a number. -/
def numberMethods : Number → List String
  | .int _ => ["as_integer_ratio", "bit_length", "conjugate"]
  | .float _ => ["as_integer_ratio", "conjugate", "is_integer"]
  | .complex _ _ => ["conjugate"]

namespace Eval

/-- An attribute of a running loop. -/
def loopAttribute? (place : Nat) (name : String) : Eval (Option Value) := do
  let l ← loopAt place
  let index0 : Int := (l.taken : Int) - 1
  match name with
  | "index" => return some (.int l.taken)
  | "index0" => return some (.int index0)
  | "depth" => return some (.int (l.depth + 1))
  | "depth0" => return some (.int l.depth)
  | "first" => return some (.bool (index0 == 0))
  | "last" => return some (.bool (← peek place).isNone)
  | "length" => return some (.int (← loopLength place))
  | "revindex" => return some (.int ((← loopLength place) - index0))
  | "revindex0" => return some (.int ((← loopLength place) - (index0 + 1)))
  | "previtem" =>
    return some (l.before.getD (.undefined "there is no previous item" false))
  | "nextitem" =>
    return some ((← peek place).getD (.undefined "there is no next item" false))
  | "cycle" => return some (.method (.loop place) name)
  | "changed" => return some (.method (.loop place) name)
  | _ => return none

/-- An attribute of a macro. -/
def routineAttribute? (r : Routine) (name : String) : Option Value :=
  match name with
  | "name" => some (match r.name with
    | some name => .text name
    | none => .none)
  | "arguments" => some (.tuple (r.parameters.map fun p => .text p.name))
  | "caller" => some (.bool ((Scope.macroExtras r.parameters r.body).contains "caller"))
  | "catch_kwargs" => some (.bool ((Scope.macroExtras r.parameters r.body).contains "kwargs"))
  | "catch_varargs" => some (.bool ((Scope.macroExtras r.parameters r.body).contains "varargs"))
  | _ => none

/-- An attribute of a number. -/
def numberAttribute? (a : Number) (v : Value) (name : String) : Eval (Option Value) := do
  match a, name with
  | .int n, "real" => return some (.int n)
  | .int _, "imag" => return some (.int 0)
  | .int n, "numerator" => return some (.int n)
  | .int _, "denominator" => return some (.int 1)
  | .float _, "real" => return some v
  | .float _, "imag" => return some (.float 0.0)
  | .complex re _, "real" => return some (← ofFloat re)
  | .complex _ im, "imag" => return some (← ofFloat im)
  | a, name => return if (numberMethods a).contains name then some (.method v name) else none

/-- The block of a name, if the context has one at the depth. -/
def blockAt? (name : String) (context depth : Nat) : Eval (Option Value) := do
  match (← contextAt context).blocks.lookup name with
  | some found => return if depth < found.length then some (.block name context depth) else none
  | none => return none

/-- The block that the block at a depth replaces. -/
def replacedBlock (name : String) (context depth : Nat) : Eval Value := do
  return (← blockAt? name context (depth + 1)).getD
    (.undefined ("there is no parent block called " ++ Text.quotedString name ++ ".") false)

/-- An attribute of a value. -/
def attribute? (v : Value) (name : String) : Eval (Option Value) := do
  let oneOf (names : List String) : Option Value :=
    if names.contains name then some (.method v name) else none
  match v with
  | .undefined message _ => failUndefined message
  | .text _ => return oneOf textMethods
  | .markup _ => return oneOf textMethods
  | .list _ => return oneOf listMethods
  | .dict _ => return oneOf dictMethods
  | .tuple _ => return oneOf tupleMethods
  | .group key items =>
    match name with
    | "grouper" => return some key
    | "list" => return some items
    | _ => return oneOf tupleMethods
  | .range start stop step =>
    match name with
    | "start" => return some (.int start)
    | "stop" => return some (.int stop)
    | "step" => return some (.int step)
    | _ => return oneOf tupleMethods
  | .cells place => return (← cellsAt place).lookup name
  | .joiner place =>
    let (separator, used) := (← get).joiners.getD place default
    match name with
    | "sep" => return some separator
    | "used" => return some (.bool used)
    | _ => return none
  | .cycler place =>
    let (items, position) := (← get).cyclers.getD place default
    match name with
    | "items" => return some (.tuple items)
    | "pos" => return some (.int position)
    | "current" => return some (items.getD position .none)
    | _ => return oneOf ["next", "reset"]
  | .loop place => loopAttribute? place name
  | .routine place => return routineAttribute? (← routineAt place) name
  | .module place => return (← moduleAt place).members.lookup name
  | .block block context depth =>
    if name = "super" then return some (← replacedBlock block context depth) else return none
  | v =>
    match v.number? with
    | some a => numberAttribute? a v name
    | none => return none

/-- The element at an index; a negative index counts from the end. -/
def atIndex? {α : Type} (items : List α) (index : Int) : Option α :=
  let i := if index < 0 then index + items.length else index
  if i < 0 then none else items[i.toNat]?

/-- The element of a key. -/
def element? (v key : Value) : Eval (Option Value) := do
  match v, key with
  | .undefined message _, _ => failUndefined message
  | .dict place, key =>
    match key.checkKey (← get) with
    -- what cannot be a key is no key of the dictionary; only nothing may not be asked for
    | .error fault => if fault.kind = .undefined then ofExcept (.error fault) else return none
    | .ok () =>
      let pairs ← dictAt place
      reading (findKey? · key pairs)
  | .blocks context, key =>
    match key.string? with
    | some name => blockAt? name context 0
    | none => return none
  | .dictView _ _, _ => return none
  | .cursor _, _ => return none
  | v, key =>
    match key.integer?, v with
    | some i, .text s => return (atIndex? s.toList i).map ofChar
    | some i, .markup s => return (atIndex? s.toList i).map fun c => .markup (String.singleton c)
    | some i, .range start stop step =>
      let n : Int := rangeLength start stop step
      let i := if i < 0 then i + n else i
      return if 0 ≤ i && i < n then some (.int (start + i * step)) else none
    | some i, v => return (← fixedItems? v).bind (atIndex? · i)
    | none, _ => return none

/-- The member of a value: `v.name`. -/
def member (v : Value) (name : String) : Eval Value := do
  if let some found ← attribute? v name then return found
  if let some found ← element? v (.text name) then return found
  lacksMember v name

/-- The element of a value: `v[key]`. -/
def element (v key : Value) : Eval Value := do
  if let some found ← element? v key then return found
  if let some name := key.string? then
    if let some found ← attribute? v name then return found
  lacksElement v key

/-! ### Slices -/

/-- An end of a slice. -/
def sliceEnd? (v : Value) : Eval (Option Int) := do
  match v, v.integer? with
  | .none, _ => return none
  | _, some n => return some n
  | _, none =>
    failType "slice indices must be integers or None or have an __index__ method"

/-- The start, the number and the step of the items that a slice takes of so many. -/
def sliceBounds (n : Nat) (start stop : Option Int) (step : Int) : Int × Nat × Int :=
  -- a slice backwards ends before the first item, at the index -1
  let lowest : Int := if step < 0 then -1 else 0
  let highest : Int := if step < 0 then (n : Int) - 1 else n
  let fit (i : Int) : Int :=
    let i := if i < 0 then i + n else i
    max lowest (min highest i)
  let first := match start with
    | some i => fit i
    | none => if step < 0 then highest else lowest
  let last := match stop with
    | some i => fit i
    | none => if step < 0 then lowest else highest
  (first, rangeLength first last step, step)

/-- The items that a slice takes. -/
def sliceItems {α : Type} (items : List α) (bounds : Int × Nat × Int) : List α :=
  let items := items.toArray
  (List.range bounds.2.1).filterMap fun (k : Nat) =>
    items[(bounds.1 + (k : Int) * bounds.2.2).toNat]?

/-- A slice of a value. -/
def slice (v start stop step : Value) : Eval Value := do
  let bounds (n : Nat) : Eval (Int × Nat × Int) := do
    let step := (← sliceEnd? step).getD 1
    if step = 0 then fail .value "slice step cannot be zero"
    return sliceBounds n (← sliceEnd? start) (← sliceEnd? stop) step
  match v with
  | .undefined message _ => failUndefined message
  | .text s => return .text (String.ofList (sliceItems s.toList (← bounds s.length)))
  | .markup s => return .markup (String.ofList (sliceItems s.toList (← bounds s.length)))
  | .list place =>
    let items ← listAt place
    newList (sliceItems items (← bounds items.length))
  | .range a b c =>
    let (first, count, step) ← bounds (rangeLength a b c)
    return .range (a + first * c) (a + (first + count * step) * c) (c * step)
  | .dict _ => failType "unhashable type: 'slice'"
  | v =>
    match v.tuple? with
    | some items => return .tuple (sliceItems items (← bounds items.length))
    | none => failType (Text.quotedString (← typeName v) ++ " object is not subscriptable")

end Eval
end ApiScribe.Template
