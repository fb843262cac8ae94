import ApiScribe.Template.Method.Basic
import ApiScribe.Text.Edit
import ApiScribe.Text.Letter

/-!
# Signatures

A filter, a test and some methods have parameters with names, some of them with defaults.  Arguments
are matched with them by place and then by name, and every parameter without a default has to get
one.
-/

namespace ApiScribe.Template

/-- The parameters of a filter, test or method. -/
structure Signature where
  /-- The name in messages. -/
  name : String
  /-- The number of arguments that are passed unseen. -/
  unseen : Nat
  parameters : List (String × Option Value)

namespace Signature

/-- Names in a row: `'a'`, `'a' and 'b'`, `'a', 'b', and 'c'`. -/
def enumerate (names : List String) : String :=
  match names.map Text.quotedString with
  | [] => ""
  | [a] => a
  | [a, b] => a ++ " and " ++ b
  | quoted => ", ".intercalate quoted.dropLast ++ ", and " ++ quoted.getLast?.getD ""

/-- The message for too many arguments. -/
def tooMany (s : Signature) (given : Nat) : String :=
  let most := s.unseen + s.parameters.length
  let least := s.unseen + (s.parameters.filter (·.2.isNone)).length
  let takes := if least = most
    then toString most ++ " positional argument" ++ (if most = 1 then "" else "s")
    else "from " ++ toString least ++ " to " ++ toString most ++ " positional arguments"
  s.name ++ "() takes " ++ takes ++ " but " ++ toString (s.unseen + given) ++
    (if s.unseen + given = 1 then " was given" else " were given")

/-- The message for parameters without a value. -/
def missing (s : Signature) (names : List String) : String :=
  s.name ++ "() missing " ++ toString names.length ++ " required positional argument" ++
    (if names.length = 1 then ": " else "s: ") ++ enumerate names

/-- The value of every parameter. -/
def bind (s : Signature) (args : Actuals) : Eval (List Value) := do
  let given := args.positional.length
  for (name, _) in args.named do
    match s.parameters.findIdx? (·.1 == name) with
    | none => Eval.failType (s.name ++ "() got an unexpected keyword argument " ++
        Text.quotedString name)
    | some i =>
      if i < given then
        Eval.failType (s.name ++ "() got multiple values for argument " ++ Text.quotedString name)
  if given > s.parameters.length then Eval.failType (s.tooMany given)
  let values := s.parameters.zipIdx.map fun ((name, fallback), i) =>
    (name, (args.positional[i]?.or (args.named.lookup name)).or fallback)
  match (values.filter (·.2.isNone)).map (·.1) with
  | [] => return values.filterMap (·.2)
  | names => Eval.failType (s.missing names)

end Signature

namespace Eval

/-- A failure of a filter because of its arguments. -/
def failArgument {α : Type} (message : String) : Eval α := fail .filterArgument message

/-- A part of an attribute: a number if it is written in digits. -/
def attributePart (cs : List Char) : Eval Value := do
  if !cs.isEmpty && cs.all Text.isDigitSign then
    return .int (← Filling.readWhole (String.ofList cs))
  else return ofChars cs

/-- The parts of an attribute: `a.0.b` leads to the element `b` of the first element of `a`. -/
def attributeParts (v : Value) : Eval (List Value) := do
  match v, v.string? with
  | .none, _ => return []
  | _, some s => (Text.splitOn '.' s.toList).mapM attributePart
  | v, none => return [v]

/-- The part of an item that an attribute leads to. -/
def follow (parts : List Value) (fallback : Value) (item : Value) : Eval Value :=
  parts.foldlM (fun v part => do
    let v ← element v part
    match v, fallback with
    | .undefined _ _, .none => return v
    | .undefined _ _, fallback => return fallback
    | v, _ => return v) item

/-- A text in small letters; any other value as it is. -/
def ignoreCase (v : Value) : Value :=
  match v with
  | .text s => .text (String.ofList (Text.lower s.toList))
  | .markup s => .markup (String.ofList (Text.lower s.toList))
  | v => v

/-- A value, without regard to case unless it matters. -/
def caseKey (matters : Bool) (v : Value) : Value := if matters then v else ignoreCase v

end Eval
end ApiScribe.Template
