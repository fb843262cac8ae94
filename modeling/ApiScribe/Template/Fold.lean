import ApiScribe.Template.Machine

/-!
# Values that are known beforehand

Where an expression depends on nothing but what is written in it, its value is computed once, when
the template is compiled.  Expressions that read a name, call something or use a filter that is
told of the data have no value of that kind; neither has one whose computation fails, so that the
failure shows when the template is rendered.  Only using nothing where a text or a truth is needed,
and a key that cannot be one, fail at once.

A template that is only inspected is lenient: nothing counts as false and as an empty text.
-/

namespace ApiScribe.Template

/-- The filters that are told of the data that a template is rendered against. -/
def contextFilters : List String :=
  ["map", "select", "reject", "selectattr", "rejectattr", "random"]

/-- The depth to which values are written out as constants. -/
def constantDepth : Nat := 900

/-- A value as a constant, if it can be written out. -/
def Value.toConstant? (h : Heap) : Nat → Value → Option Constant
  | 0, _ => .none
  | fuel + 1, v =>
    match v with
    | .none => some .none
    | .bool b => some (.bool b)
    | .int n => some (.int n)
    | .float x => some (.float x)
    | .nan _ => some (.float (0.0 / 0.0))
    | .complex re im => some (.complex re im)
    | .text s => some (.text s)
    | .markup s => some (.markup s)
    | .tuple items => (items.mapM (toConstant? h fuel)).map .tuple
    | .list place => ((h.lists.getD place []).mapM (toConstant? h fuel)).map .list
    | .dict place =>
      ((h.dicts.getD place []).mapM fun (k, x) =>
        return (← toConstant? h fuel k, ← toConstant? h fuel x)).map .dict
    | _ => .none

/-- Equal values of the kind are one and the same, wherever they come from. -/
def Value.isShared : Value → Bool
  | .none => true
  | .bool _ => true
  | .int n => -5 ≤ n && n ≤ 256
  | .text s => s.isEmpty || (s.length == 1 && s.toList.all (·.toNat < 0x100))
  | .tuple items => items.isEmpty
  | _ => false

namespace Eval

/-- Nothing as an inspected template sees it. -/
def relaxed (lenient : Bool) : Value → Value
  | .undefined message _ => .undefined message lenient
  | v => v

/-- A value unless its computation fails. -/
def unlessFailed (lenient : Bool) (x : Eval Value) : Eval (Option Value) := do
  match ← attempt x with
  | .ok v => return some (relaxed lenient v)
  | .error _ => return none

/-- A slice of a written value; nothing if the value has no slices. -/
def constantSlice (v start stop step : Value) : Eval Value := do
  match ← attempt (slice v start stop step) with
  | .ok found => return found
  | .error fault =>
    if fault.kind = .type then
      let ends ← [start, stop, step].mapM literal
      return .undefined (v.described (← get) ++ " has no element slice(" ++ ", ".intercalate ends ++
        ")") false
    else ofExcept (.error fault)

/-- The arguments of a filter or test with further ones; of two by one name the later one counts. -/
def constantArguments (positional : List Value) (named : List (String × Value))
    (more moreNamed : Option Value) : Eval Actuals := do
  let more ← match more with
    | some v => itemsOf v
    | none => pure []
  let moreNamed ← match moreNamed with
    | some v => pairsOf v
    | none => pure []
  let moreNamed ← moreNamed.mapM fun (k, v) =>
    match k.string? with
    | some name => return (name, v)
    | none => failType "keywords must be strings"
  return ⟨positional ++ more, moreNamed.foldl (fun acc (k, v) => assign k v acc) named⟩

/-- A test of written values. -/
def constantTest (name : String) (v : Value) (args : Actuals) : Eval Value := do
  let passed ← runTest name v args
  return .bool (passed && (name != "sameas" || v.isShared))

end Eval

open Eval

variable (lenient : Bool)

mutual

/-- The value of an expression that depends on nothing, if it has one. -/
def Expr.constant : Expr → Eval (Option Value)
  | .name _ => return none
  | .const c => return some (← c.make)
  | .known c _ => return some (← c.make)
  | .tuple items => return (← constantAll items).map .tuple
  | .list items => do
    match ← constantAll items with
    | some values => return some (← newList values)
    | none => return none
  | .dict pairs => do
    match ← constantPairs [] pairs with
    | some values => return some (← newDict values)
    | none => return none
  | .cell _ _ => return none
  | .member e name => do
    match ← e.constant with
    | some v => unlessFailed lenient (member v name)
    | none => return none
  | .item e (.slice start stop step) => do
    match ← e.constant, ← constantSome start, ← constantSome stop, ← constantSome step with
    | some v, some start, some stop, some step =>
      unlessFailed lenient
        (constantSlice v (start.getD .none) (stop.getD .none) (step.getD .none))
    | _, _, _, _ => return none
  | .item e key => do
    match ← e.constant, ← key.constant with
    | some v, some key => unlessFailed lenient (element v key)
    | _, _ => return none
  | .slice _ _ _ => return none
  | .call _ _ _ _ _ => return none
  | .filter none _ _ _ _ _ _ => return none
  | .filter (some e) name args named more moreNamed _ => do
    if !filterNames.contains name || contextFilters.contains name then return none
    -- the arguments are computed before what is filtered
    match ← constantAll args, ← constantNamed named, ← constantSome more, ← constantSome moreNamed,
      ← e.constant with
    | some args, some named, some more, some moreNamed, some v =>
      unlessFailed lenient do applyFilter name v (← constantArguments args named more moreNamed)
    | _, _, _, _, _ => return none
  | .test e name args named more moreNamed _ => do
    if !testNames.contains name then return none
    match ← constantAll args, ← constantNamed named, ← constantSome more, ← constantSome moreNamed,
      ← e.constant with
    | some args, some named, some more, some moreNamed, some v =>
      unlessFailed lenient do constantTest name v (← constantArguments args named more moreNamed)
    | _, _, _, _, _ => return none
  | .unary op e => do
    match ← e.constant with
    | some v => unlessFailed lenient (applyUnary op v)
    | none => return none
  | .binary op a b => do
    match ← a.constant, ← b.constant with
    | some a, some b => unlessFailed lenient (applyBinary op a b)
    | _, _ => return none
  | .both a b => do
    match ← a.constant with
    | some v => if ← isTrue v then b.constant else return some v
    | none => return none
  | .either a b => do
    match ← a.constant with
    | some v => if ← isTrue v then return some v else b.constant
    | none => return none
  | .compare e others => do
    match ← e.constant with
    | some v => constantCompared v others
    | none => return none
  | .concat items => return (← constantText items).map .text
  | .choice test yes no _ => do
    match ← test.constant with
    | some v =>
      if ← isTrue v then yes.constant
      else match no with
        | some e => e.constant
        | none => return none
    | none => return none

/-- The values of expressions, if all have one. -/
def constantAll : List Expr → Eval (Option (List Value))
  | [] => return some []
  | e :: es => do
    match ← e.constant with
    | some v => return (← constantAll es).map (v :: ·)
    | none => return none

/-- The value of an expression that may be left out, if it has one. -/
def constantSome : Option Expr → Eval (Option (Option Value))
  | none => return some none
  | some e => return (← e.constant).map some

/-- The pairs of a dictionary after those before them, if all have values. -/
def constantPairs (before : List (Value × Value)) :
    List (Expr × Expr) → Eval (Option (List (Value × Value)))
  | [] => return some before
  | (k, e) :: rest => do
    match ← k.constant, ← e.constant with
    | some k, some v => constantPairs (← withPairs before [(k, v)]) rest
    | _, _ => return none

/-- The values of arguments by name, if all have one. -/
def constantNamed : List (String × Expr) → Eval (Option (List (String × Value)))
  | [] => return some []
  | (name, e) :: rest => do
    match ← e.constant with
    | some v => return (← constantNamed rest).map ((name, v) :: ·)
    | none => return none

/-- The outcome of a chain of comparisons, as far as it is needed. -/
def constantCompared (a : Value) : List (CompareOp × Expr) → Eval (Option Value)
  | [] => return some (.bool true)
  | (op, e) :: rest => do
    match ← e.constant with
    | none => return none
    | some b =>
      match ← attempt (compareBy op a b) with
      | .error _ => return none
      | .ok false => return some (.bool false)
      | .ok true => constantCompared b rest

/-- The texts of expressions, one after the other, if all have values. -/
def constantText : List Expr → Eval (Option String)
  | [] => return some ""
  | e :: es => do
    match ← e.constant with
    | some v => do
      let s ← display v
      return (← constantText es).map (s ++ ·)
    | none => return none

end

/-- Runs a computation that needs no template and no data. -/
def runAlone {α : Type} (x : Eval α) : Except Fault α × Heap :=
  x (Machine.ofDepth function? (fun _ => none) machineDepth) {}

/-- An expression whose parts are folded: with its value, if it has one that can be written out. -/
def withConstant (e : Expr) : Except Fault Expr :=
  match runAlone (e.constant lenient) with
  | (.error fault, _) => .error fault
  | (.ok none, _) => .ok e
  | (.ok (some v), h) => .ok (match v.toConstant? h constantDepth with
      | some c => .known c e
      | none => e)

/-- The constant without the minus sign that it is written with, if it has one. -/
def Constant.unsigned? : Constant → Option Constant
  | .int n => if n < 0 then some (.int (-n)) else .none
  -- the sign bit, since the negative zero is written with its sign too
  | .float x => if !x.isNaN && x.toBits >>> 63 == 1 then some (.float (-x)) else .none
  | .complex re im =>
    if re.toBits == (0.0 : Float).toBits && !im.isNaN && im.toBits >>> 63 == 1 then
      some (.complex re (-im))
    else .none
  | _ => .none

/-- A power as it is evaluated: a base that is known is written out, and a power binds more tightly
than the minus sign before it. -/
def Expr.asWritten : Expr → Expr
  | .binary .pow (.known c e) b =>
    match c.unsigned? with
    | some c => .unary .neg (.binary .pow (.known c e) b)
    | none => .binary .pow (.known c e) b
  | e => e

mutual

/-- An expression with the values of all its parts that have one. -/
def Expr.fold : Expr → Except Fault Expr
  | .name n => .ok (.name n)
  | .const c => .ok (.const c)
  | .known c e => .ok (.known c e)
  | .cell owner n => .ok (.cell owner n)
  | .tuple items => do withConstant lenient (.tuple (← foldAll items))
  | .list items => do withConstant lenient (.list (← foldAll items))
  | .dict pairs => do withConstant lenient (.dict (← foldPairs pairs))
  | .member e n => do withConstant lenient (.member (← e.fold) n)
  | .item e key => do withConstant lenient (.item (← e.fold) (← key.fold))
  | .slice start stop step => do
    return .slice (← foldSome start) (← foldSome stop) (← foldSome step)
  | .call g args named more moreNamed => do
    return .call (← g.fold) (← foldAll args) (← foldNamed named) (← foldSome more)
      (← foldSome moreNamed)
  | .filter e n args named more moreNamed line => do
    withConstant lenient (.filter (← foldSome e) n (← foldAll args) (← foldNamed named)
      (← foldSome more) (← foldSome moreNamed) line)
  | .test e n args named more moreNamed line => do
    withConstant lenient (.test (← e.fold) n (← foldAll args) (← foldNamed named)
      (← foldSome more) (← foldSome moreNamed) line)
  | .unary op e => do withConstant lenient (.unary op (← e.fold))
  | .binary op a b => do
    return (← withConstant lenient (.binary op (← a.fold) (← b.fold))).asWritten
  | .both a b => do withConstant lenient (.both (← a.fold) (← b.fold))
  | .either a b => do withConstant lenient (.either (← a.fold) (← b.fold))
  | .compare e others => do withConstant lenient (.compare (← e.fold) (← foldCompared others))
  | .concat items => do withConstant lenient (.concat (← foldAll items))
  | .choice test yes no line => do
    withConstant lenient (.choice (← test.fold) (← yes.fold) (← foldSome no) line)

@[inherit_doc Expr.fold]
def foldAll : List Expr → Except Fault (List Expr)
  | [] => .ok []
  | e :: es => do
    let e ← e.fold
    return e :: (← foldAll es)

@[inherit_doc Expr.fold]
def foldSome : Option Expr → Except Fault (Option Expr)
  | none => .ok none
  | some e => do return some (← e.fold)

@[inherit_doc Expr.fold]
def foldPairs : List (Expr × Expr) → Except Fault (List (Expr × Expr))
  | [] => .ok []
  | (k, e) :: rest => do
    let k ← k.fold
    let e ← e.fold
    return (k, e) :: (← foldPairs rest)

@[inherit_doc Expr.fold]
def foldNamed : List (String × Expr) → Except Fault (List (String × Expr))
  | [] => .ok []
  | (name, e) :: rest => do
    let e ← e.fold
    return (name, e) :: (← foldNamed rest)

@[inherit_doc Expr.fold]
def foldCompared : List (CompareOp × Expr) → Except Fault (List (CompareOp × Expr))
  | [] => .ok []
  | (op, e) :: rest => do
    let e ← e.fold
    return (op, e) :: (← foldCompared rest)

end

mutual

/-- An expression as it is evaluated.  A display of items is made anew each time, so only its items
are folded. -/
def Expr.settled : Expr → Except Fault Expr
  | .tuple items => do return .tuple (← settledAll items)
  | .list items => do return .list (← settledAll items)
  | .dict pairs => do return .dict (← settledPairs pairs)
  | e => e.fold lenient

@[inherit_doc Expr.settled]
def settledAll : List Expr → Except Fault (List Expr)
  | [] => .ok []
  | e :: es => do
    let e ← e.settled
    return e :: (← settledAll es)

@[inherit_doc Expr.settled]
def settledPairs : List (Expr × Expr) → Except Fault (List (Expr × Expr))
  | [] => .ok []
  | (k, e) :: rest => do
    let k ← k.settled
    let e ← e.settled
    return (k, e) :: (← settledPairs rest)

end

/-- The text of a printed expression that depends on nothing, if it has one. -/
def Expr.constantText? (e : Expr) : Option String :=
  match (runAlone do
    match ← e.constant lenient with
    | some v => return some (← display v)
    | none => return none).1 with
  | .ok text => text
  | .error _ => none

/-- A piece of output as it is printed. -/
def Piece.settled : Piece → Except Fault Piece
  | .print e =>
    match e.constantText? lenient with
    | some text => .ok (.known text e)
    | none => (e.settled lenient).map .print
  | piece => .ok piece

end ApiScribe.Template
