import ApiScribe.Json.Basic

/-!
# Data from outside and what is wrong with it

Models and configurations arrive as untyped data, from JSON or from YAML.  A `Datum` is what the
schema needs to see of such data: texts, lists and records, and nothing of the scalars that no
field takes.  Checking a datum against a schema either gives a value or *all* findings, in the
order of the schema's fields.
-/

namespace ApiScribe

/-- A key of a record. -/
inductive Datum.Key where
  | text (name : String)
  | number (n : Int)
  /-- Any other key, as it is shown. -/
  | other (shown : String)
  deriving DecidableEq, Repr, Inhabited

/-- Untyped data as far as a schema can tell it apart. -/
inductive Datum where
  | text (s : String)
  /-- A text that holds a surrogate without its partner. -/
  | unpaired (points : List Nat)
  /-- Bytes that are no UTF-8. -/
  | illFormedText
  | list (items : List Datum)
  | record (members : List (Datum.Key × Datum))
  | scalar
  deriving Inhabited

/-- The text of the given code points. -/
def Datum.ofCodePoints (points : List Nat) : Datum :=
  if points.all Json.isScalar then .text (String.ofList (points.map Char.ofNat))
  else .unpaired points

/-- The member of a record. -/
def Datum.member? (name : String) (members : List (Datum.Key × Datum)) : Option Datum :=
  members.lookup (.text name)

mutual

/-- JSON as data for a schema; a lone surrogate is replaced. -/
def Json.toDatum : Json → Datum
  | .string s => .text s
  | .unpaired points => .text (Json.replaceUnpaired points)
  | .array items => .list (toData items)
  | .object members => .record (toMembers members)
  | _ => .scalar

@[inherit_doc Json.toDatum]
def Json.toData : List Json → List Datum
  | [] => []
  | v :: vs => v.toDatum :: toData vs

@[inherit_doc Json.toDatum]
def Json.toMembers : List (Json.Name × Json) → List (Datum.Key × Datum)
  | [] => []
  | (name, v) :: ms => (.text name.toText, v.toDatum) :: toMembers ms

end

namespace Schema

/-- One step on the way to a part of a datum. -/
inductive Step where
  | key (name : String)
  | index (n : Int)
  deriving DecidableEq, Repr

/-- What is wrong with a part of a datum. -/
inductive Problem where
  | missing
  | notText
  | illFormedText
  | notList
  | notRecord
  | unknownKey
  | keyNotText
  | kindMissing
  | kindUnknown
  | typeNotRecord
  | optionalElement
  | nestedOptional
  | typeTooDeep
  deriving DecidableEq, Repr

/-- The word for a problem in reports. -/
def Problem.code : Problem → String
  | .missing => "missing"
  | .notText => "string_type"
  | .illFormedText => "string_unicode"
  | .notList => "tuple_type"
  | .notRecord => "model_type"
  | .unknownKey => "extra_forbidden"
  | .keyNotText => "invalid_key"
  | .kindMissing => "union_tag_not_found"
  | .kindUnknown => "union_tag_invalid"
  | .typeNotRecord => "model_attributes_type"
  | .optionalElement => "value_error"
  | .nestedOptional => "value_error"
  | .typeTooDeep => "recursion_loop"

/-- The rule that a wrapper breaks, in words; other problems are told by their code alone. -/
def Problem.rule? : Problem → Option String
  | .optionalElement => some "Value error, an array element type cannot be optional"
  | .nestedOptional => some "Value error, an optional type cannot wrap another optional type"
  | _ => none

/-- A problem and the place of it. -/
structure Finding where
  place : List Step
  problem : Problem
  deriving DecidableEq, Repr

/-- The outcome of checking a datum: a value, or every finding. -/
abbrev Checked (α : Type) := Except (List Finding) α

namespace Checked

variable {α β : Type}

/-- A single finding at the datum itself. -/
def fail (problem : Problem) : Checked α := .error [⟨[], problem⟩]

/-- The findings of a part are found below the step that leads to it. -/
def under (step : Step) : Checked α → Checked α
  | .ok a => .ok a
  | .error fs => .error (fs.map fun f => ⟨step :: f.place, f.problem⟩)

/-- Both values, or the findings of both. -/
def both : Checked α → Checked β → Checked (α × β)
  | .ok a, .ok b => .ok (a, b)
  | .ok _, .error fs => .error fs
  | .error es, .ok _ => .error es
  | .error es, .error fs => .error (es ++ fs)

/-- All values, or the findings of all. -/
def all : List (Checked α) → Checked (List α)
  | [] => .ok []
  | c :: cs => (both c (all cs)).map fun (a, as) => a :: as

end Checked

/-- A text. -/
def text : Datum → Checked String
  | .text s => .ok s
  | .illFormedText => Checked.fail .illFormedText
  | _ => Checked.fail .notText

/-- A text by its code points, which may hold a surrogate without its partner. -/
def points : Datum → Checked (List Nat)
  | .text s => .ok (s.toList.map Char.toNat)
  | .unpaired points => .ok points
  | .illFormedText => Checked.fail .illFormedText
  | _ => Checked.fail .notText

/-- A list, each item checked at its place. -/
def list {α : Type} (item : Datum → Checked α) : Datum → Checked (List α)
  | .list items =>
    Checked.all (items.zipIdx.map fun (d, i) => (item d).under (.index i))
  | _ => Checked.fail .notList

/-- A member that must be there. -/
def required {α : Type} (name : String) (check : Datum → Checked α)
    (members : List (Datum.Key × Datum)) : Checked α :=
  match Datum.member? name members with
  | some d => (check d).under (.key name)
  | none => (Checked.fail .missing : Checked α).under (.key name)

/-- A list that is empty when its member is not there. -/
def listOrEmpty {α : Type} (name : String) (item : Datum → Checked α)
    (members : List (Datum.Key × Datum)) : Checked (List α) :=
  match Datum.member? name members with
  | some d => (list item d).under (.key name)
  | none => .ok []

/-- Refuses every key that is not among the known ones. -/
def noOtherKeys (known : List String) (members : List (Datum.Key × Datum)) : Checked Unit :=
  match members.filterMap fun (key, _) =>
    match key with
    | .text name => if known.contains name then none else some ⟨[.key name], .unknownKey⟩
    | .number n => some ⟨[.index n], .keyNotText⟩
    | .other shown => some ⟨[.key shown], .keyNotText⟩ with
  | [] => .ok ()
  | findings => .error findings

/-- A record. -/
def record {α : Type} (check : List (Datum.Key × Datum) → Checked α) : Datum → Checked α
  | .record members => check members
  | _ => Checked.fail .notRecord

end Schema
end ApiScribe
