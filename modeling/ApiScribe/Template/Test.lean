import ApiScribe.Template.Signature
import ApiScribe.Template.Vocabulary

/-!
# Tests

A test tells whether something holds of a value: `x is odd`.
-/

namespace ApiScribe.Template
namespace Eval

/-- The signature of a test without arguments. -/
def testOne (name : String) : Signature := ⟨"test_" ++ name, 0, [("value", none)]⟩

/-- The signature of a test with an argument. -/
def testTwo (name argument : String) : Signature :=
  ⟨"test_" ++ name, 0, [("value", none), (argument, none)]⟩

/-- The value has items that can be asked for by place or key. -/
def isSequence : Value → Bool
  | .text _ => true
  | .markup _ => true
  | .tuple _ => true
  | .group _ _ => true
  | .range _ _ _ => true
  | .list _ => true
  | .dict _ => true
  | .undefined _ lenient => lenient
  | _ => false

/-- The value can be iterated over. -/
def isIterable (v : Value) : Eval Bool := do
  match v with
  | .cursor _ => return true
  | .loop _ => return true
  | .blocks _ => return true
  | .undefined _ true => return true
  | .undefined message false => failUndefined message
  | .range _ _ _ => return true
  | v => return (← fixedItems? v).isSome

/-- The value can be called. -/
def isCallable : Value → Bool
  | .function _ => true
  | .method _ _ => true
  | .routine _ => true
  | .joiner _ => true
  | .loop _ => true
  | .block _ _ _ => true
  | .undefined _ _ => true
  | _ => false

/-- The operator of a test that compares. -/
def comparing? : String → Option (String × CompareOp)
  | "==" => some ("eq", .eq)
  | "eq" => some ("eq", .eq)
  | "equalto" => some ("eq", .eq)
  | "!=" => some ("ne", .ne)
  | "ne" => some ("ne", .ne)
  | ">" => some ("gt", .gt)
  | "gt" => some ("gt", .gt)
  | "greaterthan" => some ("gt", .gt)
  | ">=" => some ("ge", .ge)
  | "ge" => some ("ge", .ge)
  | "<" => some ("lt", .lt)
  | "lt" => some ("lt", .lt)
  | "lessthan" => some ("lt", .lt)
  | "<=" => some ("le", .le)
  | "le" => some ("le", .le)
  | _ => none

/-- A comparison of two values. -/
def compareBy (op : CompareOp) (a b : Value) : Eval Bool := do
  match op with
  | .eq => equals a b
  | .ne => return !(← equals a b)
  | .inside => contains b a
  | .notInside => return !(← contains b a)
  | op => ordered op a b

/-- The remainder of a value has the given value. -/
def leaves (v divisor : Value) (remainder : Int) : Eval Bool := do
  equals (← applyBinary .mod v divisor) (.int remainder)

/-- Refuses anything but one argument. -/
def onlyArgument (function : String) (args : Actuals) : Eval Unit := do
  if !args.named.isEmpty then failType (function ++ "() takes no keyword arguments")
  if args.positional.length ≠ 1 then
    failType (function ++ "() takes exactly one argument (" ++ toString args.positional.length ++
      " given)")

/-- A name is one of the given ones. -/
def isAmong (names : List String) (v : Value) : Eval Bool := do
  reading (v.checkKey ·)
  return v.string?.any names.contains

/-- Applies a test that exists to a value. -/
def runTest (name : String) (v : Value) (args : Actuals) : Eval Bool := do
  let args := args.after v
  let one (answer : Eval Bool) : Eval Bool := do
    let _ ← (testOne name).bind args
    answer
  let two (argument : String) (answer : Value → Eval Bool) : Eval Bool := do
    let values ← (testTwo name argument).bind args
    answer ((values.drop 1).headD .none)
  let placed (answer : Eval Bool) : Eval Bool := do
    let _ ← { testOne name with unseen := 1 }.bind args
    answer
  match comparing? name with
  | some (function, op) =>
    if !args.named.isEmpty then
      failType ("_operator." ++ function ++ "() takes no keyword arguments")
    match args.positional with
    | [a, b] => compareBy op a b
    | vs => failType (function ++ " expected 2 arguments, got " ++ toString vs.length)
  | none =>
    match name with
    | "odd" => one (leaves v (.int 2) 1)
    | "even" => one (leaves v (.int 2) 0)
    | "divisibleby" => two "num" fun n => leaves v n 0
    | "defined" => one (return !(v matches .undefined _ _))
    | "undefined" => one (return v matches .undefined _ _)
    | "filter" => placed (isAmong filterNames v)
    | "test" => placed (isAmong testNames v)
    | "none" => one (return v matches .none)
    | "boolean" => one (return v matches .bool _)
    | "true" => one (return v matches .bool true)
    | "false" => one (return v matches .bool false)
    | "integer" => one (return v matches .int _)
    | "float" => one (return v.float?.isSome)
    | "number" => one (return v.number?.isSome)
    | "string" => one (return v.string?.isSome)
    | "lower" => one (return Text.isAllSmall (← display v).toList)
    | "upper" => one (return Text.isAllCapital (← display v).toList)
    | "mapping" => one (return v matches .dict _)
    | "sequence" => one (return isSequence v)
    | "iterable" => one (isIterable v)
    | "callable" =>
      onlyArgument "callable" args
      return isCallable v
    | "sameas" => two "other" fun other => return v.same other
    | "escaped" => one (return v matches .markup _ || v matches .module _)
    | "in" => two "seq" fun container => contains container v
    | _ => return false

/-- The function behind a test, as it is named in messages. -/
def testFunction (name : String) : String :=
  match comparing? name with
  | some (function, _) => "_operator." ++ function ++ "()"
  | none => if name = "callable" then "callable()" else "jinja2.tests.test_" ++ name ++ "()"

end Eval
end ApiScribe.Template
