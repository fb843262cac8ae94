import ApiScribe.Interruption
import ApiScribe.Json.Printer
import ApiScribe.Json.Reader
import ApiScribe.Schema.Model
import ApiScribe.Text.Position

/-!
# Stored models

A model is stored as a JSON object with the format version under `v` and the model under `api`.
`Artifact.read` undoes `Artifact.write` for every indent.  A model with a type of too many wrappers
is not stored.

A name that JSON spells with a lone surrogate is no Unicode text; the model that is read has a
replacement character in its place.
-/

namespace ApiScribe

/-- Why a text is no stored model. -/
inductive ArtifactError where
  | notJson (fault : Json.Fault) (place : String)
  | notObject
  | unsupportedVersion (shown : String)
  | invalid (findings : List Schema.Finding)
  /-- The file at a path cannot be read, for the given reason. -/
  | unreadable (path reason : String)
  /-- The file at a path cannot be written, for the given reason. -/
  | unwritable (path reason : String)
  deriving DecidableEq, Repr

/-- The error as shown to the user, up to the findings of a schema. -/
def ArtifactError.message : ArtifactError → String
  | .notJson fault place => "Invalid JSON artifact: " ++ fault.message ++ ": " ++ place
  | .notObject => "Artifact must be a JSON object"
  | .unsupportedVersion shown => "Unsupported artifact format version: " ++ shown
  | .invalid _ => "Invalid artifact: "
  | .unreadable path reason => "Cannot read artifact '" ++ path ++ "': " ++ reason
  | .unwritable path reason => "Cannot write artifact '" ++ path ++ "': " ++ reason

namespace Artifact

/-- The version of the format. -/
def version : String := "1"

/-- The suffix of the files that hold stored models. -/
def suffix : List Char := ".json".toList

/-! ### Writing -/

/-- A type as JSON. -/
def ofType : TypeDescriptor → Json
  | .integer => .object [("kind", .string "integer")]
  | .string => .object [("kind", .string "string")]
  | .boolean => .object [("kind", .string "boolean")]
  | .reference name => .object [("kind", .string "reference"), ("name", .string name)]
  | .array element => .object [("kind", .string "array"), ("element_type", ofType element)]
  | .optional inner => .object [("kind", .string "optional"), ("inner_type", ofType inner)]

/-- A field or parameter as JSON. -/
def ofMember (m : Member) : Json := .object [("name", .string m.name), ("type", ofType m.type)]

/-- A DTO as JSON. -/
def ofDto (dto : Dto) : Json :=
  .object [("name", .string dto.name), ("fields", .array (dto.fields.map ofMember))]

/-- A method as JSON. -/
def ofMethod (method : Method) : Json :=
  .object [("name", .string method.name), ("parameters", .array (method.parameters.map ofMember))]

/-- A model as JSON. -/
def ofApi (api : Api) : Json :=
  .object [("dtos", .array (api.dtos.map ofDto)), ("methods", .array (api.methods.map ofMethod))]

/-- A model as JSON, with the version of its format. -/
def ofVersioned (api : Json) : Json := .object [("v", .string version), ("api", api)]

/-- The type can be stored. -/
def admits (t : TypeDescriptor) : Bool := t.depth ≤ TypeDescriptor.depthLimit

/-- A type as JSON, if it can be stored. -/
def storedType (t : TypeDescriptor) : Except Interruption Json :=
  if admits t then .ok (ofType t) else .error .typeTooDeep

/-- A model as JSON, if it can be stored. -/
def stored (api : Api) : Except Interruption Json :=
  if api.members.all fun m => admits m.type then .ok (ofApi api) else .error .typeTooDeep

/-- The text that stores a model, on one line without an indent. -/
def write (indent : Option Nat) (api : Api) : Except Interruption String :=
  (stored api).map fun v => String.ofList (Json.text indent (ofVersioned v))

/-! ### Reading -/

/-- The model in a JSON value. -/
def ofJson (v : Json) : Except ArtifactError Api :=
  match v with
  | .object members =>
    match members.lookup (.text "v") with
    | some (.string "1") =>
      match Schema.api (((members.lookup (.text "api")).getD (.object [])).toDatum) with
      | .ok api => .ok api
      | .error findings => .error (.invalid findings)
    | shown => .error (.unsupportedVersion (String.ofList (shown.getD .null).literal))
  | _ => .error .notObject

/-- The model that a text stores, if it takes so many levels of brackets. -/
def readWithin (levels : Nat) (text : String) : Except (Failure ArtifactError) Api :=
  match Json.readWithin levels text.toList with
  | .error (.malformed fault place) =>
    .error (.rejected (.notJson fault (Text.placeText text.toList place)))
  | .error (.integerTooLong digits) => .error (.interrupted (.integerTooLong digits))
  | .error (.nestedTooDeep container) => .error (.interrupted (.nestedTooDeep container))
  | .ok v =>
    match ofJson v with
    | .ok api => .ok api
    | .error e => .error (.rejected e)

/-- The model that a run reads from a text. -/
def read (text : String) : Except (Failure ArtifactError) Api :=
  readWithin Json.nestingLimit text

end Artifact
end ApiScribe
