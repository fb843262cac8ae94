import ApiScribe.Generation.Configuration
import ApiScribe.Interruption
import ApiScribe.Template.Check

/-!
# Checking wrappers

A wrapper is rendered against the text of a type under the name `value` and against nothing else.
A wrapper that needs any other name would fail whenever it is used, so it is refused with the
configuration.  A wrapper that needs no name at all stands for one fixed type.
-/

namespace ApiScribe

namespace Wrapper

/-- The name under which a wrapper finds the text of the type it wraps. -/
def valueName : String := "value"

/-- What is wrong with the wrapper under a key of a configuration. -/
inductive Problem where
  | malformed (key message : String)
  /-- The wrapper needs names that nothing provides. -/
  | unknownNames (key : String) (names : List String)
  deriving DecidableEq, Repr

/-- The problem as shown to the user. -/
def Problem.message : Problem → String
  | .malformed key message => "'" ++ key ++ "' is not a valid template: " ++ message
  | .unknownNames key names =>
    "'" ++ key ++ "' must use the placeholder '" ++ valueName ++
      "', for example 'Wrapper<\x7b\x7b value \x7d\x7d>'; found: " ++ ", ".intercalate names

/-- Texts in the order of their code points. -/
def sorted (names : List String) : List String := names.mergeSort fun a b => decide (a ≤ b)

/-- What is wrong with a wrapper, if anything is. -/
def problem? (key source : String) : Except Interruption (Option Problem) :=
  match Template.compile .inspection source.toList with
  | .error (.ill e) => .ok (some (.malformed key e.message))
  | .error (.failed fault) => .error (.template fault)
  | .ok template =>
    match sorted (template.needed.filter (· != valueName)) with
    | [] => .ok none
    | names => .ok (some (.unknownNames key names))

end Wrapper

namespace Configuration

/-- What is wrong with the wrappers of a configuration: first of arrays, then of optionals. -/
def wrapperProblems (c : Configuration) : Except Interruption (List Wrapper.Problem) := do
  let array ← Wrapper.problem? "array_type" c.arrayType
  let optional ← Wrapper.problem? "optional_type" c.optionalType
  return array.toList ++ optional.toList

end Configuration
end ApiScribe
