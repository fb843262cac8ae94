import ApiScribe.Proofs.StoredModel
import ApiScribe.Proofs.TypeGrammar

/-!
# Where an optional stands in a type

The rule of the model looks one level down: neither the element of an array nor the inside of an
optional is itself an optional.  What follows for a whole type is that an optional is outermost or
absent (`TypeDescriptor.admissible_iff`).

Types come into the model from two sides.  The grammar of cells never puts an optional anywhere
else (`TypeDescriptor.admissible_parse`), so that the rule has nothing to refuse; of the data that
spells types, the schema accepts those that keep the rule (`Schema.type_eq_ok`).
-/

namespace ApiScribe
namespace TypeDescriptor

/-! ### The rule and the types that keep it -/

/-- Either no optional occurs, or a single one around all the rest. -/
def OptionalOutermost (t : TypeDescriptor) : Prop :=
  t.isPlain = true ∨ ∃ inner, t = .optional inner ∧ inner.isPlain = true

theorem isPlain_iff {t : TypeDescriptor} :
    t.isPlain = true ↔ t.Admissible ∧ t.isOptional = false := by
  induction t with
  | integer | string | boolean | reference => exact ⟨fun _ => ⟨rfl, rfl⟩, fun _ => rfl⟩
  | array element ih =>
    rw [isPlain, ih, admissible_array]
    exact ⟨fun h => ⟨h, rfl⟩, fun h => h.1⟩
  | optional inner ih =>
    constructor
    · intro h
      cases h
    · rintro ⟨-, h⟩
      cases h

/-- The rule looks one level down, but with it an optional is outermost in the whole type. -/
theorem admissible_iff {t : TypeDescriptor} : t.Admissible ↔ t.OptionalOutermost := by
  unfold OptionalOutermost
  cases t with
  | optional inner =>
    rw [admissible_optional, ← isPlain_iff]
    constructor
    · intro h
      exact .inr ⟨inner, rfl, h⟩
    · rintro (h | ⟨_, h, hplain⟩)
      · cases h
      · cases h
        exact hplain
  | _ =>
    rw [isPlain_iff]
    constructor
    · intro h
      exact .inl ⟨h, rfl⟩
    · rintro (h | ⟨_, h, -⟩)
      · exact h.1
      · cases h

/-- A wrapper around a type, unless that is an optional. -/
def wrapped (wrap : TypeDescriptor → TypeDescriptor) (problem : Schema.Problem)
    (inner : TypeDescriptor) : Except Schema.Problem TypeDescriptor :=
  if inner.isOptional then .error problem else .ok (wrap inner)

/-- Makes a type from the inside out, with the rule checked for each wrapper. -/
def validated : TypeDescriptor → Except Schema.Problem TypeDescriptor
  | .array element => element.validated >>= wrapped .array .optionalElement
  | .optional inner => inner.validated >>= wrapped .optional .nestedOptional
  | t => .ok t

theorem wrapped_eq_ok {wrap : TypeDescriptor → TypeDescriptor} {problem : Schema.Problem}
    {inner made : TypeDescriptor} :
    wrapped wrap problem inner = .ok made ↔ inner.isOptional = false ∧ made = wrap inner := by
  unfold wrapped
  split
  · next h => simp [h]
  · next h => simp [h, eq_comm]

/-- The checks refuse no admissible type, and no other type passes them. -/
theorem validated_eq_ok {t made : TypeDescriptor} :
    t.validated = .ok made ↔ t.Admissible ∧ made = t := by
  induction t generalizing made with
  | integer | string | boolean | reference =>
    constructor
    · intro h
      cases h
      exact ⟨rfl, rfl⟩
    · rintro ⟨-, rfl⟩
      rfl
  | array element ih =>
    rw [validated, Outcome.bind_eq_ok, admissible_array]
    simp only [ih, wrapped_eq_ok, and_assoc]
    constructor
    · rintro ⟨inner, ha, rfl, ho, rfl⟩
      exact ⟨ha, ho, rfl⟩
    · rintro ⟨ha, ho, rfl⟩
      exact ⟨element, ha, rfl, ho, rfl⟩
  | optional inner ih =>
    rw [validated, Outcome.bind_eq_ok, admissible_optional]
    simp only [ih, wrapped_eq_ok, and_assoc]
    constructor
    · rintro ⟨_, ha, rfl, ho, rfl⟩
      exact ⟨ha, ho, rfl⟩
    · rintro ⟨ha, ho, rfl⟩
      exact ⟨inner, ha, rfl, ho, rfl⟩

/-! ### Types of cells -/

theorem isPlain_primitive? {cs : List Char} {t : TypeDescriptor} (h : primitive? cs = some t) :
    t.isPlain = true := by
  cases primitive?_eq_some.1 h <;> rfl

theorem isPlain_ofCompact (written cs : List Char) : (ofCompact written cs).isPlain = true := by
  induction written, cs using ofCompact.induct with
  | case1 written element ih =>
    rw [ofCompact]
    exact ih
  | case2 written cs hcs =>
    rw [ofCompact.eq_2 _ _ hcs]
    cases hp : primitive? cs with
    | none => rfl
    | some t => exact isPlain_primitive? hp

/-- The grammar never puts an optional inside of another type. -/
theorem admissible_parse (cell qualifier : String) : (parse cell qualifier).Admissible := by
  have hplain : (ofCell cell.toList).isPlain = true := isPlain_ofCompact _ _
  rw [admissible_iff]
  unfold parse
  split
  · exact .inr ⟨_, rfl, hplain⟩
  · exact .inl hplain

end TypeDescriptor

/-- So no type of a model that is made from tables does. -/
theorem Api.admissible_ofTables (tables : List Table) :
    ∀ m ∈ (Api.ofTables tables).members, m.type.Admissible := by
  intro m hm
  rcases List.mem_append.1 hm with hm | hm
  · obtain ⟨dto, hdto, hm⟩ := List.mem_flatMap.1 hm
    obtain ⟨table, -, hdto⟩ := List.mem_filterMap.1 hdto
    cases table with
    | method => cases hdto
    | dto name rows =>
      cases hdto
      obtain ⟨row, -, rfl⟩ := List.mem_map.1 hm
      exact TypeDescriptor.admissible_parse _ _
  · obtain ⟨method, hmethod, hm⟩ := List.mem_flatMap.1 hm
    obtain ⟨table, -, hmethod⟩ := List.mem_filterMap.1 hmethod
    cases table with
    | dto => cases hmethod
    | method name rows =>
      cases hmethod
      obtain ⟨row, -, rfl⟩ := List.mem_map.1 hm
      exact TypeDescriptor.admissible_parse _ _

/-! ### Both sides of the model -/

end ApiScribe
