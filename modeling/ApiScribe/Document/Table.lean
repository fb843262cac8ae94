import ApiScribe.Model.Entity
import ApiScribe.Model.TypeGrammar

/-!
# Tables of a document and the model they describe

A table is named by the heading before it.  A table of three columns describes a DTO, one of four
a method; each row is a member.  `Api.ofTables` turns tables into a model, in document order.
-/

namespace ApiScribe

/-- A row of a DTO table. -/
structure DtoRow where
  field : String
  type : String
  description : String
  deriving DecidableEq, Repr, Inhabited

/-- A row of a method table. -/
structure MethodRow where
  parameter : String
  type : String
  required : String
  description : String
  deriving DecidableEq, Repr, Inhabited

/-- A table of a document. -/
inductive Table where
  | dto (name : String) (rows : List DtoRow)
  | method (name : String) (rows : List MethodRow)
  deriving DecidableEq, Repr, Inhabited

/-- A field is optional when its description starts with the marker. -/
def DtoRow.toMember (row : DtoRow) : Member :=
  ⟨row.field, TypeDescriptor.parse row.type row.description⟩

/-- A parameter is optional when its required cell starts with the marker. -/
def MethodRow.toMember (row : MethodRow) : Member :=
  ⟨row.parameter, TypeDescriptor.parse row.type row.required⟩

/-- The DTO that a table describes. -/
def Table.dto? : Table → Option Dto
  | .dto name rows => some ⟨name, rows.map DtoRow.toMember⟩
  | .method _ _ => none

/-- The method that a table describes. -/
def Table.method? : Table → Option Method
  | .dto _ _ => none
  | .method name rows => some ⟨name, rows.map MethodRow.toMember⟩

/-- The model that tables describe. -/
def Api.ofTables (tables : List Table) : Api :=
  ⟨tables.filterMap Table.dto?, tables.filterMap Table.method?⟩

end ApiScribe
