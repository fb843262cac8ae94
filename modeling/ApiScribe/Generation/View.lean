import ApiScribe.Generation.Data
import ApiScribe.Model.Entity
import ApiScribe.Model.Names

/-!
# Views of the model

A template does not see the model itself but views of its entities, in which types are written in
the target language and identifiers are renamed.
-/

namespace ApiScribe

/-- A field or parameter as templates see it. -/
structure MemberView where
  name : String
  givenName : String
  type : String
  optional : Bool
  reference : Option Names
  deriving DecidableEq, Repr, Inhabited

/-- A DTO as templates see it. -/
structure DtoView where
  name : Names
  fields : List MemberView
  usedDtoNames : List Names
  deriving DecidableEq, Repr, Inhabited

/-- A method as templates see it. -/
structure MethodView where
  name : Names
  parameters : List MemberView
  usedDtoNames : List Names
  deriving DecidableEq, Repr, Inhabited

/-- The names in increasing order, each once. -/
def sortedNames (names : List String) : List String :=
  names.eraseDups.mergeSort fun a b => decide (a ≤ b)

/-- The names that the members of an entity reference, except the entity's own, sorted. -/
def usedDtoNames (owner : String) (members : List Member) : List Names :=
  (sortedNames ((members.filterMap fun m => m.type.referencedName?).filter (· != owner))).map
    Names.of

/-! ### Views as data -/

/-- The spellings of a name. -/
def Names.toData (n : Names) : Data :=
  .record [("original", .text n.given), ("snake_case", .text n.snakeCase),
    ("camel_case", .text n.camelCase), ("capital_camel_case", .text n.capitalCamelCase)]

/-- A member. -/
def MemberView.toData (m : MemberView) : Data :=
  .record [("name", .text m.name), ("original_name", .text m.givenName),
    ("type", .text m.type), ("optional", .bool m.optional),
    ("reference", match m.reference with
      | some names => names.toData
      | none => .none)]

/-- A DTO. -/
def DtoView.toData (v : DtoView) : Data :=
  .record [("name", v.name.toData), ("fields", .tuple (v.fields.map MemberView.toData)),
    ("used_dto_names", .tuple (v.usedDtoNames.map Names.toData))]

/-- A method. -/
def MethodView.toData (v : MethodView) : Data :=
  .record [("name", v.name.toData), ("parameters", .tuple (v.parameters.map MemberView.toData)),
    ("used_dto_names", .tuple (v.usedDtoNames.map Names.toData))]

end ApiScribe
