import ApiScribe.Model.Entity

/-!
# Consistency of a model

The check points out what would break generated code: a repeated entity or member name is an
error; a reference to a type that the model does not hold, and a DTO without fields, are warnings.
-/

namespace ApiScribe

/-- A finding that makes the generated code invalid. -/
inductive Defect where
  | repeatedDto (name : String)
  | repeatedMethod (name : String)
  | repeatedField (dto name : String)
  | repeatedParameter (method name : String)
  deriving DecidableEq, Repr

/-- A finding with which generation still works. -/
inductive Caution where
  | unknownFieldType (dto field type : String)
  | unknownParameterType (method parameter type : String)
  | emptyDto (name : String)
  deriving DecidableEq, Repr

/-- The finding as shown to the user. -/
def Defect.message : Defect → String
  | .repeatedDto name => "DTO '" ++ name ++ "' is defined more than once"
  | .repeatedMethod name => "Method '" ++ name ++ "' is defined more than once"
  | .repeatedField dto name =>
    "DTO '" ++ dto ++ "' declares field '" ++ name ++ "' more than once"
  | .repeatedParameter method name =>
    "Method '" ++ method ++ "' declares parameter '" ++ name ++ "' more than once"

/-- The finding as shown to the user. -/
def Caution.message : Caution → String
  | .unknownFieldType dto field type =>
    "Field '" ++ dto ++ "." ++ field ++ "' references unknown type '" ++ type ++ "'"
  | .unknownParameterType method parameter type =>
    "Parameter '" ++ method ++ "." ++ parameter ++ "' references unknown type '" ++ type ++ "'"
  | .emptyDto name => "DTO '" ++ name ++ "' has no fields"

/-- What the check found. -/
structure Findings where
  cautions : List Caution
  defects : List Defect
  deriving DecidableEq, Repr

/-- The model cannot be used. -/
def Findings.hasDefects (f : Findings) : Bool := !f.defects.isEmpty

/-- Every name that occurs more than once, in order of first occurrence. -/
def repeated (names : List String) : List String :=
  (names.filter fun name => 1 < names.count name).eraseDups

namespace Api

/-- The name that a type references, unless a DTO of the model has it. -/
def unknownReference? (api : Api) (type : TypeDescriptor) : Option String :=
  type.referencedName?.filter fun name => !(api.dtos.map Dto.name).contains name

/-- The repeated names of the model. -/
def defects (api : Api) : List Defect :=
  (repeated (api.dtos.map Dto.name)).map Defect.repeatedDto ++
  (repeated (api.methods.map Method.name)).map Defect.repeatedMethod ++
  api.dtos.flatMap (fun dto =>
    (repeated (dto.fields.map Member.name)).map (Defect.repeatedField dto.name)) ++
  api.methods.flatMap (fun method =>
    (repeated (method.parameters.map Member.name)).map (Defect.repeatedParameter method.name))

/-- The unknown references and the empty DTOs of the model. -/
def cautions (api : Api) : List Caution :=
  api.dtos.flatMap (fun dto => dto.fields.filterMap fun field =>
    (api.unknownReference? field.type).map (Caution.unknownFieldType dto.name field.name)) ++
  api.methods.flatMap (fun method => method.parameters.filterMap fun parameter =>
    (api.unknownReference? parameter.type).map
      (Caution.unknownParameterType method.name parameter.name)) ++
  (api.dtos.filter fun dto => dto.fields.isEmpty).map fun dto => Caution.emptyDto dto.name

/-- Checks a model. -/
def check (api : Api) : Findings := ⟨api.cautions, api.defects⟩

end Api
end ApiScribe
