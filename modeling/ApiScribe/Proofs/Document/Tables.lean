import Mathlib.Data.List.Forall2
import ApiScribe.Document.Table
import ApiScribe.Proofs.TypeGrammar

/-!
# The model that tables describe

Tables of two kinds come mixed, in the order of the document, and the model has a list for each
kind.  Nothing is lost on the way, made twice or moved: the entities of a kind are those that its
tables describe, one for each and in their order, and the members of an entity those of the rows of
its table (`Table.DescribesDto`, `Table.DescribesMethod`).  Whatever a table says beside that does
not count: where the tables of the other kind stand, what the description of a parameter says, and
in the cell that marks optionality everything but whether it starts with the marker
(`Table.ReadsAlike`).

Main statement: `Api.ofTables_exact`.
-/

namespace ApiScribe

/-! ### Lists of items -/

section
variable {α β : Type} {R : α → β → Prop} {as : List α} {bs : List β}

/-- Items that a function makes the same of make the same list. -/
theorem map_eq_of_forall₂ {S : α → α → Prop} {f : α → β} {others : List α}
    (hf : ∀ a other, S a other → f a = f other) (h : List.Forall₂ S as others) :
    as.map f = others.map f := by
  rw [← List.forall₂_eq_eq_eq, List.forall₂_map_left_iff, List.forall₂_map_right_iff]
  exact h.imp hf

theorem filterMap_eq_of_forall₂ {S : α → α → Prop} {f : α → Option β} {others : List α}
    (hf : ∀ a other, S a other → f a = f other) (h : List.Forall₂ S as others) :
    as.filterMap f = others.filterMap f := by
  have hmap := congrArg (List.filterMap id) (map_eq_of_forall₂ hf h)
  rwa [List.filterMap_map, List.filterMap_map] at hmap

/-- Results for all items, each that of a function. -/
theorem forall₂_iff_eq_map {f : α → β} (hf : ∀ a b, R a b ↔ b = f a) :
    List.Forall₂ R as bs ↔ bs = as.map f := by
  rw [eq_comm, ← List.forall₂_eq_eq_eq, List.forall₂_map_left_iff]
  constructor
  · exact List.Forall₂.imp fun a b h => ((hf a b).1 h).symm
  · exact List.Forall₂.imp fun a b h => (hf a b).2 h.symm

/-- Results for the items that have one, each that of a partial function. -/
theorem forall₂_filter_iff {f : α → Option β} {p : α → Bool} (hp : ∀ a, p a = (f a).isSome)
    (hf : ∀ a b, R a b ↔ f a = some b) :
    List.Forall₂ R (as.filter p) bs ↔ bs = as.filterMap f := by
  induction as generalizing bs with
  | nil => exact List.forall₂_nil_left_iff
  | cons a as ih =>
    have hpa := hp a
    cases ha : f a with
    | none =>
      rw [ha, Option.isSome_none] at hpa
      rw [List.filter_cons_of_neg (Bool.eq_false_iff.1 hpa), List.filterMap_cons_none ha, ih]
    | some b =>
      rw [ha, Option.isSome_some] at hpa
      rw [List.filter_cons_of_pos hpa, List.filterMap_cons_some ha, List.forall₂_cons_left_iff]
      constructor
      · rintro ⟨b', bs, hb, hbs, rfl⟩
        rw [(hf a b').1 hb] at ha
        rw [Option.some.inj ha, ih.1 hbs]
      · rintro rfl
        exact ⟨b, _, (hf a b).2 ha, ih.2 rfl, rfl⟩

end

/-! ### What tables describe -/

/-- The field of a row: its type is that of the type cell, optional as the description says. -/
structure DtoRow.Describes (row : DtoRow) (field : Member) : Prop where
  name : field.name = row.field
  type : field.type = TypeDescriptor.parse row.type row.description

/-- The parameter of a row: its type is that of the type cell, optional as the required cell
says. -/
structure MethodRow.Describes (row : MethodRow) (parameter : Member) : Prop where
  name : parameter.name = row.parameter
  type : parameter.type = TypeDescriptor.parse row.type row.required

namespace Table

/-- The table describes a DTO, not a method. -/
def isDto : Table → Bool
  | .dto _ _ => true
  | .method _ _ => false

/-- The DTO of the table's name, with a field for each row and in the order of the rows. -/
inductive DescribesDto : Table → Dto → Prop
  | rows {name : String} {rows : List DtoRow} {fields : List Member}
      (h : List.Forall₂ DtoRow.Describes rows fields) : DescribesDto (.dto name rows) ⟨name, fields⟩

/-- The method of the table's name, with a parameter for each row and in the order of the rows. -/
inductive DescribesMethod : Table → Method → Prop
  | rows {name : String} {rows : List MethodRow} {parameters : List Member}
      (h : List.Forall₂ MethodRow.Describes rows parameters) :
    DescribesMethod (.method name rows) ⟨name, parameters⟩

end Table

theorem DtoRow.describes_iff (row : DtoRow) (field : Member) :
    row.Describes field ↔ field = row.toMember := by
  constructor
  · rintro ⟨hname, htype⟩
    rw [toMember, ← hname, ← htype]
  · rintro rfl
    exact ⟨rfl, rfl⟩

theorem MethodRow.describes_iff (row : MethodRow) (parameter : Member) :
    row.Describes parameter ↔ parameter = row.toMember := by
  constructor
  · rintro ⟨hname, htype⟩
    rw [toMember, ← hname, ← htype]
  · rintro rfl
    exact ⟨rfl, rfl⟩

namespace Table

theorem describesDto_iff (table : Table) (dto : Dto) :
    table.DescribesDto dto ↔ table.dto? = some dto := by
  constructor
  · rintro ⟨h⟩
    rw [dto?, (forall₂_iff_eq_map DtoRow.describes_iff).1 h]
  · intro h
    cases table with
    | dto name rows =>
      cases h
      exact .rows ((forall₂_iff_eq_map DtoRow.describes_iff).2 rfl)
    | method name rows => cases h

theorem describesMethod_iff (table : Table) (method : Method) :
    table.DescribesMethod method ↔ table.method? = some method := by
  constructor
  · rintro ⟨h⟩
    rw [method?, (forall₂_iff_eq_map MethodRow.describes_iff).1 h]
  · intro h
    cases table with
    | dto name rows => cases h
    | method name rows =>
      cases h
      exact .rows ((forall₂_iff_eq_map MethodRow.describes_iff).2 rfl)

theorem isDto_eq (table : Table) : table.isDto = table.dto?.isSome := by
  cases table <;> rfl

theorem not_isDto_eq (table : Table) : (!table.isDto) = table.method?.isSome := by
  cases table <;> rfl

end Table

/-! ### What does not count -/

/-- Both cells start with the marker, blanks apart, or neither does. -/
def MarksAlike (cell other : String) : Prop :=
  "Optional".toList <+: Text.withoutBlanks cell.toList ↔
    "Optional".toList <+: Text.withoutBlanks other.toList

theorem MarksAlike.parse_eq {qualifier other : String} (h : MarksAlike qualifier other)
    (cell : String) : TypeDescriptor.parse cell qualifier = TypeDescriptor.parse cell other := by
  rw [TypeDescriptor.parse_eq, TypeDescriptor.parse_eq, if_congr h rfl rfl]

/-- The rows differ in their descriptions at most, and both of these mark an optional field or
neither does. -/
structure DtoRow.ReadsAlike (row other : DtoRow) : Prop where
  field : row.field = other.field
  type : row.type = other.type
  description : MarksAlike row.description other.description

/-- The rows differ in their descriptions and required cells at most, and both of the latter mark an
optional parameter or neither does. -/
structure MethodRow.ReadsAlike (row other : MethodRow) : Prop where
  parameter : row.parameter = other.parameter
  type : row.type = other.type
  required : MarksAlike row.required other.required

/-- Tables of one kind and one name whose rows read alike. -/
inductive Table.ReadsAlike : Table → Table → Prop
  | dto {name : String} {rows others : List DtoRow}
      (h : List.Forall₂ DtoRow.ReadsAlike rows others) :
    ReadsAlike (.dto name rows) (.dto name others)
  | method {name : String} {rows others : List MethodRow}
      (h : List.Forall₂ MethodRow.ReadsAlike rows others) :
    ReadsAlike (.method name rows) (.method name others)

theorem DtoRow.toMember_eq_of_readsAlike (row other : DtoRow) (h : row.ReadsAlike other) :
    row.toMember = other.toMember := by
  rw [toMember, toMember, h.field, h.type, h.description.parse_eq]

theorem MethodRow.toMember_eq_of_readsAlike (row other : MethodRow) (h : row.ReadsAlike other) :
    row.toMember = other.toMember := by
  rw [toMember, toMember, h.parameter, h.type, h.required.parse_eq]

namespace Table

theorem dto?_eq_of_readsAlike (table other : Table) (h : table.ReadsAlike other) :
    table.dto? = other.dto? := by
  cases h with
  | dto h => rw [dto?, dto?, map_eq_of_forall₂ DtoRow.toMember_eq_of_readsAlike h]
  | method h => rfl

theorem method?_eq_of_readsAlike (table other : Table) (h : table.ReadsAlike other) :
    table.method? = other.method? := by
  cases h with
  | dto h => rfl
  | method h => rw [method?, method?, map_eq_of_forall₂ MethodRow.toMember_eq_of_readsAlike h]

end Table

namespace Api

variable {tables : List Table} {api : Api}

theorem ofTables_eq_iff : ofTables tables = api ↔
    List.Forall₂ Table.DescribesDto (tables.filter Table.isDto) api.dtos ∧
    List.Forall₂ Table.DescribesMethod (tables.filter fun table => !table.isDto) api.methods := by
  rw [forall₂_filter_iff Table.isDto_eq Table.describesDto_iff,
    forall₂_filter_iff Table.not_isDto_eq Table.describesMethod_iff]
  constructor
  · rintro rfl
    exact ⟨rfl, rfl⟩
  · rintro ⟨hdtos, hmethods⟩
    cases api
    cases hdtos
    cases hmethods
    rfl

/-- The model of tables has, in order, one DTO for each table that describes one and one method for
each of the others, with one member for each row.  So the tables of one kind may stand anywhere
between those of the other, the model of some tables and more is that of the former followed by that
of the latter, and rows that read alike give the same model. -/
theorem ofTables_exact (tables : List Table) :
    (∀ api, ofTables tables = api ↔
      List.Forall₂ Table.DescribesDto (tables.filter Table.isDto) api.dtos ∧
      List.Forall₂ Table.DescribesMethod (tables.filter fun table => !table.isDto)
        api.methods) ∧
    (∀ others, others.filter Table.isDto = tables.filter Table.isDto →
      (others.filter fun table => !table.isDto) = (tables.filter fun table => !table.isDto) →
      ofTables others = ofTables tables) ∧
    (∀ more, ofTables (tables ++ more) =
      ⟨(ofTables tables).dtos ++ (ofTables more).dtos,
        (ofTables tables).methods ++ (ofTables more).methods⟩) ∧
    ∀ others, List.Forall₂ Table.ReadsAlike tables others → ofTables others = ofTables tables := by
  refine ⟨fun _ => ofTables_eq_iff, fun others hdtos hmethods => ?_, fun more => ?_,
    fun others h => ?_⟩
  · rw [ofTables_eq_iff, hdtos, hmethods]
    exact ofTables_eq_iff.1 rfl
  · rw [ofTables, List.filterMap_append, List.filterMap_append]
    rfl
  · rw [ofTables, ofTables, filterMap_eq_of_forall₂ Table.dto?_eq_of_readsAlike h,
      filterMap_eq_of_forall₂ Table.method?_eq_of_readsAlike h]

-- of the two cells of a parameter that may say "Optional", the required one counts
example : ofTables
    [.method "go"
        [⟨"a", "Integer", "Yes", "Optional. First"⟩, ⟨"b", "Array of X", "Opt ional", ""⟩],
      .dto "X" [⟨"c", "String", "Optional\n"⟩], .method "stop" []] =
    ⟨[⟨"X", [⟨"c", .optional .string⟩]⟩],
      [⟨"go", [⟨"a", .integer⟩, ⟨"b", .optional (.array (.reference "X"))⟩]⟩, ⟨"stop", []⟩]⟩ := by
  decide +kernel

end Api
end ApiScribe
