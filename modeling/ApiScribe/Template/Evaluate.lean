import ApiScribe.Template.Generator
import ApiScribe.Template.Variable

/-!
# Evaluating expressions

An expression is evaluated from left to right.  What a call does is not decided here: the `Machine`
knows how to run what is called.
-/

namespace ApiScribe.Template

namespace Constant

/-- The word for the size of a float that has no digits. -/
def wordOf? (x : Float) : Option String :=
  if x.isNaN then some "nan" else if x.isInf then some "inf" else .none

mutual

/-- The first word in a written constant that means nothing: a float without digits is written as
a word. -/
def word? : Constant → Option String
  | .float x => wordOf? x
  | .complex re im => (wordOf? re).or ((wordOf? im).map (· ++ "j"))
  | .tuple items => wordIn? items
  | .list items => wordIn? items
  | .dict pairs => wordInPairs? pairs
  | _ => .none

@[inherit_doc word?]
def wordIn? : List Constant → Option String
  | [] => .none
  | c :: cs => c.word?.or (wordIn? cs)

@[inherit_doc word?]
def wordInPairs? : List (Constant × Constant) → Option String
  | [] => .none
  | (k, c) :: rest => k.word?.or (c.word?.or (wordInPairs? rest))

end

mutual

/-- The value of a constant, made anew. -/
def make : Constant → Eval Value
  | .none => return .none
  | .bool b => return .bool b
  | .int n => return .int n
  | .float x => Eval.ofFloat x
  | .complex re im => return .complex re im
  | .text s => return .text s
  | .markup s => return .markup s
  | .tuple items => return .tuple (← makeAll items)
  | .list items => do Eval.newList (← makeAll items)
  | .dict pairs => do Eval.newDict (← makePairs pairs)

@[inherit_doc make]
def makeAll : List Constant → Eval (List Value)
  | [] => return []
  | c :: cs => do
    let v ← c.make
    return v :: (← makeAll cs)

@[inherit_doc make]
def makePairs : List (Constant × Constant) → Eval (List (Value × Value))
  | [] => return []
  | (k, c) :: rest => do
    let k ← k.make
    let v ← c.make
    return (k, v) :: (← makePairs rest)

end

/-- The value that is written out. -/
def load (c : Constant) : Eval Value :=
  match c.word? with
  | .none => c.make
  | some word => Eval.fail .unknownName ("name " ++ Text.quotedString word ++ " is not defined")

end Constant

namespace Eval

/-- Calls a value. -/
def call (v : Value) (args : Actuals) : Eval Value := fun m => m.call v args

/-- The pairs of a dictionary as arguments by name of a function. -/
def namedOf (function : String) (v : Value) : Eval (List (Value × Value)) := do
  match v with
  | .dict place => dictAt place
  | .undefined message _ => failUndefined message
  | v => failType (function ++ " argument after ** must be a mapping, not " ++ (← typeName v))

/-- The items of a value as arguments. -/
def positionalOf (v : Value) : Eval (List Value) := do
  walk v ("Value after * must be an iterable, not " ++ (← typeName v))

/-- Arguments by name with further ones, none of which may be given twice. -/
def joinNamed (function : String) (named : List (String × Value)) (more : List (Value × Value)) :
    Eval (List (String × Value)) := do
  for (k, _) in more do
    if let some name := k.string? then
      if (named.lookup name).isSome then
        failType (function ++ " got multiple values for keyword argument '" ++ name ++ "'")
  let more ← more.mapM fun (k, v) =>
    match k.string? with
    | some name => return (name, v)
    | none => failType "keywords must be strings"
  return named ++ more

/-- All arguments of a call of a function, evaluated one after the other. -/
def gather (function : String) (args : Eval (List Value)) (named : Eval (List (String × Value)))
    (more moreNamed : Eval (Option Value)) : Eval Actuals := do
  let args ← args
  -- the items of `more` are taken before the arguments by name are evaluated
  let more ← match ← more with
    | some v => positionalOf v
    | none => pure []
  let named ← named
  let moreNamed ← match ← moreNamed with
    | some v => namedOf function v
    | none => pure []
  return ⟨args ++ more, ← joinNamed function named moreNamed⟩

/-- The function through which values are called, as it is named in messages. -/
def callFunctionName : String := "jinja2.runtime.Context.call()"

end Eval

variable (f : Frame) (hole : Value)

open Eval

mutual

/-- The value of an expression; a filter without an expression is applied to `hole`. -/
def Expr.eval : Expr → Eval Value
  | .name n => readVariable f n
  | .const c => c.load
  | .known c _ => c.load
  | .tuple items => return .tuple (← evalAll items)
  | .list items => do newList (← evalAll items)
  | .dict pairs => do newDict (← withPairs [] (← evalPairs pairs))
  | .cell owner n => do member (← readVariable f owner) n
  | .member e n => do member (← e.eval) n
  | .item e (.slice start stop step) => do
    let v ← e.eval
    let start ← evalSome start
    let stop ← evalSome stop
    slice v (start.getD .none) (stop.getD .none) ((← evalSome step).getD .none)
  | .item e key => do
    let v ← e.eval
    element v (← key.eval)
  | .slice _ _ _ => return .none
  | .call g args named more moreNamed => do
    let g ← g.eval
    call g (← gather callFunctionName (evalAll args) (evalNamed named) (evalSome more)
      (evalSome moreNamed))
  | .filter e n args named more moreNamed _ => do
    let v := (← evalSome e).getD hole
    -- in a condition a filter need not exist, so its name is looked up late
    let args ← gather (filterFunction n) (evalAll args) (evalNamed named) (evalSome more)
      (evalSome moreNamed)
    if filterNames.contains n then applyFilter n v args
    else fail .runtime ("No filter named " ++ Text.quotedString n ++ " found.")
  | .test e n args named more moreNamed _ => do
    let v ← e.eval
    let args ← gather (testFunction n) (evalAll args) (evalNamed named) (evalSome more)
      (evalSome moreNamed)
    if testNames.contains n then return .bool (← runTest n v args)
    else fail .runtime ("No test named " ++ Text.quotedString n ++ " found.")
  | .unary op e => do applyUnary op (← e.eval)
  | .binary op a b => do
    let a ← a.eval
    applyBinary op a (← b.eval)
  | .both a b => do
    let a ← a.eval
    if ← isTrue a then b.eval else return a
  | .either a b => do
    let a ← a.eval
    if ← isTrue a then return a else b.eval
  | .compare e others => do evalCompared (← e.eval) others
  | .concat items => do
    let pieces ← (← evalAll items).mapM display
    return .text (String.join pieces)
  | .choice test yes no line => do
    if ← isTrue (← test.eval) then yes.eval
    else return (← evalSome no).getD (.undefined ("the inline if-expression on line " ++
      toString line ++ " in " ++ Text.quotedString f.template ++
      " evaluated to false and no else section was defined.") true)

/-- The values of expressions. -/
def evalAll : List Expr → Eval (List Value)
  | [] => return []
  | e :: es => do
    let v ← e.eval
    return v :: (← evalAll es)

/-- The value of an expression that may be left out. -/
def evalSome : Option Expr → Eval (Option Value)
  | none => return none
  | some e => do return some (← e.eval)

/-- The values of pairs. -/
def evalPairs : List (Expr × Expr) → Eval (List (Value × Value))
  | [] => return []
  | (k, e) :: rest => do
    let k ← k.eval
    let v ← e.eval
    return (k, v) :: (← evalPairs rest)

/-- The values of arguments by name. -/
def evalNamed : List (String × Expr) → Eval (List (String × Value))
  | [] => return []
  | (name, e) :: rest => do
    let v ← e.eval
    return (name, v) :: (← evalNamed rest)

/-- A chain of comparisons, each of the operand before it with the next one. -/
def evalCompared (a : Value) : List (CompareOp × Expr) → Eval Value
  | [] => return .bool true
  | (op, e) :: rest => do
    let b ← e.eval
    if ← compareBy op a b then
      match rest with
      | [] => return .bool true
      | rest => evalCompared b rest
    else return .bool false

end

end ApiScribe.Template
