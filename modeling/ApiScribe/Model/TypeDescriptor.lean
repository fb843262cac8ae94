/-!
# Type descriptors

The type of a field or parameter: a primitive, a named reference, or an array or optional wrapper.
The datatype admits every nesting; `Admissible` is the rule that an optional is outermost, which
whatever enters the model from outside is held to.
-/

namespace ApiScribe

/-- The type of a field or parameter. -/
inductive TypeDescriptor where
  | integer
  | string
  | boolean
  | reference (name : String)
  | array (element : TypeDescriptor)
  | optional (inner : TypeDescriptor)
  deriving DecidableEq, Repr, Inhabited

namespace TypeDescriptor

/-- The outermost type is an optional. -/
def isOptional : TypeDescriptor → Bool
  | .optional _ => true
  | _ => false

/-- The name of the reference inside the wrappers, if the type wraps one. -/
def referencedName? : TypeDescriptor → Option String
  | .reference name => some name
  | .array element => element.referencedName?
  | .optional inner => inner.referencedName?
  | _ => none

/-- No optional occurs at any depth. -/
def isPlain : TypeDescriptor → Bool
  | .optional _ => false
  | .array element => element.isPlain
  | _ => true

/-- Neither the element of an array nor the inside of an optional is itself an optional. -/
def isAdmissible : TypeDescriptor → Bool
  | .array element => !element.isOptional && element.isAdmissible
  | .optional inner => !inner.isOptional && inner.isAdmissible
  | _ => true

/-- An optional is outermost or absent. -/
abbrev Admissible (t : TypeDescriptor) : Prop := t.isAdmissible = true

theorem admissible_array {element : TypeDescriptor} :
    (array element).Admissible ↔ element.Admissible ∧ element.isOptional = false := by
  rw [Admissible, isAdmissible, Bool.and_eq_true, Bool.not_eq_true', and_comm]

theorem admissible_optional {inner : TypeDescriptor} :
    (optional inner).Admissible ↔ inner.Admissible ∧ inner.isOptional = false := by
  rw [Admissible, isAdmissible, Bool.and_eq_true, Bool.not_eq_true', and_comm]

/-- The number of wrappers inside of each other. -/
def depth : TypeDescriptor → Nat
  | .array element => element.depth + 1
  | .optional inner => inner.depth + 1
  | _ => 0

/-- The most wrappers inside of each other that a type has which comes from stored data or goes
there. -/
def depthLimit : Nat := 254

/-- The word that tells the kinds apart in stored models. -/
def kind : TypeDescriptor → String
  | .integer => "integer"
  | .string => "string"
  | .boolean => "boolean"
  | .reference _ => "reference"
  | .array _ => "array"
  | .optional _ => "optional"

end TypeDescriptor
end ApiScribe
