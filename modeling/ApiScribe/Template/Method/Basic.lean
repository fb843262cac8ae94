import ApiScribe.Template.Access
import ApiScribe.Template.Arithmetic

/-!
# Arguments of methods

Checks of the number and types of the arguments of a method, with the words for a misfit.
-/

namespace ApiScribe.Template

/-- A name for a method in messages: with its type, or alone. -/
structure MethodName where
  type : String
  name : String

namespace MethodName

/-- The method with its type. -/
def full (m : MethodName) : String := m.type ++ "." ++ m.name ++ "()"

end MethodName

/-- `"1 argument"` or `"2 arguments"`. -/
def countArguments (n : Nat) : String :=
  toString n ++ (if n = 1 then " argument" else " arguments")

namespace Eval

/-- Refuses arguments by name. -/
def noNamed (m : MethodName) (args : Actuals) : Eval Unit := do
  if !args.named.isEmpty then failType (m.full ++ " takes no keyword arguments")

/-- Refuses arguments. -/
def noArguments (m : MethodName) (args : Actuals) : Eval Unit := do
  noNamed m args
  if !args.positional.isEmpty then
    failType (m.full ++ " takes no arguments (" ++ toString args.positional.length ++ " given)")

/-- The only argument. -/
def oneArgument (m : MethodName) (args : Actuals) : Eval Value := do
  noNamed m args
  match args.positional with
  | [v] => return v
  | vs => failType (m.full ++ " takes exactly one argument (" ++ toString vs.length ++ " given)")

/-- Between so many and so many arguments. -/
def someArguments (m : MethodName) (least most : Nat) (args : Actuals) : Eval (List Value) := do
  noNamed m args
  let n := args.positional.length
  let refuse (bound : String) (limit : Nat) : Eval (List Value) :=
    failType (m.name ++ " expected " ++ bound ++ countArguments limit ++ ", got " ++ toString n)
  if n < least then refuse (if least = most then "" else "at least ") least
  else if most < n then refuse (if least = most then "" else "at most ") most
  else return args.positional

/-- A text and the place where it is searched. -/
def searchArguments (m : MethodName) (args : Actuals) : Eval (Value × List Value) := do
  noNamed m args
  let n := args.positional.length
  match args.positional with
  | [] => failType (m.name ++ "() takes at least 1 argument (0 given)")
  | v :: more =>
    if more.length > 2 then
      failType (m.name ++ "() takes at most 3 arguments (" ++ toString n ++ " given)")
    return (v, more)

/-- The arguments of optional parameters that also have names. -/
def namedArguments (m : MethodName) (names : List String) (args : Actuals) :
    Eval (List (Option Value)) := do
  let given := args.positional.length
  let n := given + args.named.length
  if n > names.length then
    failType (m.name ++ "() takes at most " ++
      (if given = 0 then toString names.length ++ " keyword argument" ++
        (if names.length = 1 then "" else "s") else countArguments names.length) ++ " (" ++
      toString n ++ " given)")
  for (name, i) in (names.take given).zipIdx do
    if (args.named.lookup name).isSome then
      failType ("argument for " ++ m.name ++ "() given by name (" ++ Text.quotedString name ++
        ") and position (" ++ toString (i + 1) ++ ")")
  for (name, _) in args.named do
    if !names.contains name then
      failType (Text.quotedString name ++ " is an invalid keyword argument for " ++ m.name ++ "()")
  return names.zipIdx.map fun (name, i) =>
    match args.positional[i]? with
    | some v => some v
    | none => args.named.lookup name

/-- An argument that is a whole number. -/
def integerArgument (v : Value) : Eval Int := do
  match v.integer? with
  | some n => return n
  | none => failType (Text.quotedString (← typeName v) ++
      " object cannot be interpreted as an integer")

/-- An argument that is a small number. -/
def smallArgument (v : Value) : Eval Int := do
  let n ← integerArgument v
  if -Decimal.twoTo 31 ≤ n ∧ n < Decimal.twoTo 31 then return n
  else fail .overflow "Python int too large to convert to C int"

/-- An argument that is a number of characters or items. -/
def sizeArgument (v : Value) : Eval Int := do
  let n ← integerArgument v
  if fitsWord n then return n else fail .overflow "Python int too large to convert to C ssize_t"

/-- A limit: none if the argument is missing or negative. -/
def limitArgument (v : Option Value) : Eval (Option Nat) := do
  match v with
  | none => return none
  | some v =>
    let n ← sizeArgument v
    return if n < 0 then none else some n.toNat

/-- An argument that is a text. -/
def textArgument (v : Value) : Eval (List Char) := do
  match v.string? with
  | some s => return s.toList
  | none => failType ("must be str, not " ++ (← typeName v))

/-- The value of characters. -/
def ofChars (cs : List Char) : Value := .text (String.ofList cs)

/-- Calls a method that exists and is not supported: one of a text that is about formats, tables or
encodings, or a list sorted by a key. -/
def unsupportedMethod (m : MethodName) : Eval Value := throw (.unsupported m.full)

/-- Walks through a value; a value that cannot be walked through is refused with a message. -/
def walk (v : Value) (refusal : String) : Eval (List Value) := do
  match v with
  | .list place => listAt place
  | v =>
    match ← attempt (cursorOf v) with
    | .ok place => drain place
    | .error fault => if fault.kind = .type then failType refusal else ofExcept (.error fault)

end Eval
end ApiScribe.Template
