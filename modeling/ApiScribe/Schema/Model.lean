import ApiScribe.Model.Entity
import ApiScribe.Schema.Datum

/-!
# The schema of a model

A model is a record of DTOs and methods, both with members that have a name and a type.  A type is
a record whose `kind` says which of its other keys count.  Unknown keys are ignored and missing
lists are empty, but an optional may stand only outermost in a type, and the number of wrappers
inside of each other is limited.

A type of more wrappers is refused at the place to which a guard lets the check come.  In a member
that is the wrapper that is one too many.  In a type on its own it is what that wrapper holds, be
it a wrapper as well or the innermost type.
-/

namespace ApiScribe.Schema

mutual

/-- What is no wrapper, if the guard lets it through: `cost` is what it counts there, and `left` is
what is left to be counted. -/
def innermost (cost left : Nat) (kind : String) (t : Checked TypeDescriptor) :
    Checked TypeDescriptor :=
  Checked.under (.key kind) (if left < cost then Checked.fail .typeTooDeep else t)

/-- A type, if the guard lets it through, which counts each wrapper and `cost` for what is
innermost.  Findings inside it are placed below its kind. -/
def typeWithin (cost left : Nat) : Datum → Checked TypeDescriptor
  | .record members =>
    match Datum.member? "kind" members with
    | none => Checked.fail .kindMissing
    | some (.text "integer") => innermost cost left "integer" (.ok .integer)
    | some (.text "string") => innermost cost left "string" (.ok .string)
    | some (.text "boolean") => innermost cost left "boolean" (.ok .boolean)
    | some (.text "reference") =>
      innermost cost left "reference"
        ((required "name" text members).map TypeDescriptor.reference)
    | some (.text "array") =>
      Checked.under (.key "array") <|
        match left with
        | 0 => Checked.fail .typeTooDeep
        | left + 1 =>
          match typeAt cost left "element_type" members with
          | .error findings => .error findings
          | .ok element =>
            if element.isOptional then Checked.fail .optionalElement else .ok (.array element)
    | some (.text "optional") =>
      Checked.under (.key "optional") <|
        match left with
        | 0 => Checked.fail .typeTooDeep
        | left + 1 =>
          match typeAt cost left "inner_type" members with
          | .error findings => .error findings
          | .ok inner =>
            if inner.isOptional then Checked.fail .nestedOptional else .ok (.optional inner)
    | some _ => Checked.fail .kindUnknown
  | _ => Checked.fail .typeNotRecord

/-- The type that a member of a record holds. -/
def typeAt (cost left : Nat) (name : String) : List (Datum.Key × Datum) → Checked TypeDescriptor
  | [] => (Checked.fail .missing : Checked TypeDescriptor).under (.key name)
  | (key, d) :: members =>
    if key = .text name then (typeWithin cost left d).under (.key name)
    else typeAt cost left name members

end

/-- A type on its own, of which the guard counts every part. -/
def type (d : Datum) : Checked TypeDescriptor := typeWithin 1 (TypeDescriptor.depthLimit + 1) d

/-- A field or parameter.  Of its type the guard counts the wrappers alone. -/
def member : Datum → Checked Member :=
  record fun members =>
    ((required "name" text members).both
      (typeAt 0 TypeDescriptor.depthLimit "type" members)).map
      fun (name, type) => ⟨name, type⟩

/-- A DTO. -/
def dto : Datum → Checked Dto :=
  record fun members =>
    ((required "name" text members).both (listOrEmpty "fields" member members)).map
      fun (name, fields) => ⟨name, fields⟩

/-- A method. -/
def method : Datum → Checked Method :=
  record fun members =>
    ((required "name" text members).both (listOrEmpty "parameters" member members)).map
      fun (name, parameters) => ⟨name, parameters⟩

/-- A model. -/
def api : Datum → Checked Api :=
  record fun members =>
    ((listOrEmpty "dtos" dto members).both (listOrEmpty "methods" method members)).map
      fun (dtos, methods) => ⟨dtos, methods⟩

end ApiScribe.Schema
