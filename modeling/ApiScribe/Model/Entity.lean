import ApiScribe.Model.TypeDescriptor

/-!
# Entities

An interface has record-like data transfer objects (DTOs) with fields, and methods with
parameters.  Nothing here is unique: a document may name an entity or a member twice, and the
model keeps both.
-/

namespace ApiScribe

/-- A named and typed part of an entity: a field of a DTO or a parameter of a method. -/
structure Member where
  name : String
  type : TypeDescriptor
  deriving DecidableEq, Repr, Inhabited

/-- A record-like entity. -/
structure Dto where
  name : String
  fields : List Member := []
  deriving DecidableEq, Repr, Inhabited

/-- A named operation. -/
structure Method where
  name : String
  parameters : List Member := []
  deriving DecidableEq, Repr, Inhabited

/-- Every DTO and method of a document, in document order. -/
structure Api where
  dtos : List Dto := []
  methods : List Method := []
  deriving DecidableEq, Repr, Inhabited

/-- The fields of the DTOs, then the parameters of the methods. -/
def Api.members (api : Api) : List Member :=
  api.dtos.flatMap Dto.fields ++ api.methods.flatMap Method.parameters

/-- In every type of the model an optional is outermost or absent. -/
def Api.Admissible (api : Api) : Prop :=
  (∀ dto ∈ api.dtos, ∀ field ∈ dto.fields, field.type.Admissible) ∧
    ∀ method ∈ api.methods, ∀ parameter ∈ method.parameters, parameter.type.Admissible

end ApiScribe
