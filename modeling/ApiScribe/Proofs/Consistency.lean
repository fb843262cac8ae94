import ApiScribe.Model.Consistency
import Mathlib.Data.List.Nodup

/-!
# What the check of a model finds

The errors of a model are exactly its repeated names, its warnings exactly its unknown references
and its DTOs without fields (`Api.mem_defects`, `Api.mem_cautions`).  So a model without errors is
one in which names tell entities and members apart, and one without warnings is one that can be
followed from every reference to a DTO with fields (`Api.defects_eq_nil`, `Api.cautions_eq_nil`).
-/

namespace ApiScribe

theorem mem_repeated {names : List String} {name : String} :
    name ∈ repeated names ↔ 1 < names.count name := by
  unfold repeated
  rw [List.mem_eraseDups, List.mem_filter, decide_eq_true_eq]
  constructor
  · rintro ⟨-, h⟩
    exact h
  · intro h
    exact ⟨List.count_pos_iff.1 (Nat.zero_lt_of_lt h), h⟩

theorem repeated_eq_nil {names : List String} : repeated names = [] ↔ names.Nodup := by
  rw [List.nodup_iff_count_le_one, List.eq_nil_iff_forall_not_mem]
  simp only [mem_repeated, Nat.not_lt]

/-- The type is a reference to a name, or wraps one. -/
inductive TypeDescriptor.Refers (name : String) : TypeDescriptor → Prop
  | reference : Refers name (.reference name)
  | array {element : TypeDescriptor} (h : element.Refers name) : Refers name (.array element)
  | optional {inner : TypeDescriptor} (h : inner.Refers name) : Refers name (.optional inner)

/-- A type refers to one name at most, and the look through its wrappers finds it. -/
theorem TypeDescriptor.referencedName?_eq_some {type : TypeDescriptor} {name : String} :
    type.referencedName? = some name ↔ type.Refers name := by
  constructor
  · intro h
    induction type with
    | integer => cases h
    | string => cases h
    | boolean => cases h
    | reference name =>
      cases h
      exact .reference
    | array element ih => exact .array (ih h)
    | optional inner ih => exact .optional (ih h)
  · intro h
    induction h with
    | reference => rfl
    | array _ ih => exact ih
    | optional _ ih => exact ih

/-! ### Texts of errors -/

namespace Defect

variable {defect : Defect} {name : String}

/-- What is said of a repeated DTO is said of nothing else: other errors end with another word. -/
theorem eq_of_message_repeatedDto (h : defect.message = (repeatedDto name).message) :
    defect = repeatedDto name := by
  -- a name may hold any text, so messages are told apart by how they start and how they end
  have hstart := congrArg String.toList h
  have hend := congrArg (fun s => s.toList.reverse) h
  cases defect with
  | repeatedDto other =>
    have hname : other = name := String.toList_inj.1 (by simpa [message] using hstart)
    rw [hname]
  | repeatedMethod other => simp [message] at hstart
  | repeatedField dto other => simp [message] at hend
  | repeatedParameter method other => simp [message] at hstart

/-- What is said of a repeated method is said of nothing else. -/
theorem eq_of_message_repeatedMethod (h : defect.message = (repeatedMethod name).message) :
    defect = repeatedMethod name := by
  have hstart := congrArg String.toList h
  have hend := congrArg (fun s => s.toList.reverse) h
  cases defect with
  | repeatedDto other => simp [message] at hstart
  | repeatedMethod other =>
    have hname : other = name := String.toList_inj.1 (by simpa [message] using hstart)
    rw [hname]
  | repeatedField dto other => simp [message] at hstart
  | repeatedParameter method other => simp [message] at hend

end Defect

namespace Api

variable {api : Api}

/-- The type refers to a name that no DTO of the model has. -/
def RefersToUnknown (api : Api) (type : TypeDescriptor) (name : String) : Prop :=
  type.Refers name ∧ ∀ dto ∈ api.dtos, dto.name ≠ name

theorem unknownReference?_eq_some {type : TypeDescriptor} {name : String} :
    api.unknownReference? type = some name ↔ api.RefersToUnknown type name := by
  unfold unknownReference? RefersToUnknown
  rw [Option.filter_eq_some_iff, TypeDescriptor.referencedName?_eq_some]
  simp

/-! ### Errors -/

/-- Names tell the entities of the model apart, and the members of each entity. -/
structure Consistent (api : Api) : Prop where
  dtos : (api.dtos.map Dto.name).Nodup
  methods : (api.methods.map Method.name).Nodup
  fields : ∀ dto ∈ api.dtos, (dto.fields.map Member.name).Nodup
  parameters : ∀ method ∈ api.methods, (method.parameters.map Member.name).Nodup

/-- A name that the model repeats. -/
inductive HasDefect (api : Api) : Defect → Prop
  | repeatedDto {name : String} (h : 1 < (api.dtos.map Dto.name).count name) :
    HasDefect api (.repeatedDto name)
  | repeatedMethod {name : String} (h : 1 < (api.methods.map Method.name).count name) :
    HasDefect api (.repeatedMethod name)
  | repeatedField {dto : Dto} {name : String} (hdto : dto ∈ api.dtos)
      (h : 1 < (dto.fields.map Member.name).count name) :
    HasDefect api (.repeatedField dto.name name)
  | repeatedParameter {method : Method} {name : String} (hmethod : method ∈ api.methods)
      (h : 1 < (method.parameters.map Member.name).count name) :
    HasDefect api (.repeatedParameter method.name name)

/-- The check finds the repeated names and nothing else. -/
theorem mem_defects {defect : Defect} : defect ∈ api.defects ↔ api.HasDefect defect := by
  unfold defects
  simp only [List.mem_append, List.mem_map, List.mem_flatMap, mem_repeated]
  constructor
  · rintro (((⟨name, h, rfl⟩ | ⟨name, h, rfl⟩) | ⟨dto, hdto, name, h, rfl⟩) |
      ⟨method, hmethod, name, h, rfl⟩)
    · exact .repeatedDto h
    · exact .repeatedMethod h
    · exact .repeatedField hdto h
    · exact .repeatedParameter hmethod h
  · intro h
    cases h with
    | repeatedDto h => exact .inl (.inl (.inl ⟨_, h, rfl⟩))
    | repeatedMethod h => exact .inl (.inl (.inr ⟨_, h, rfl⟩))
    | repeatedField hdto h => exact .inl (.inr ⟨_, hdto, _, h, rfl⟩)
    | repeatedParameter hmethod h => exact .inr ⟨_, hmethod, _, h, rfl⟩

theorem defects_eq_nil : api.defects = [] ↔ api.Consistent := by
  unfold defects
  simp only [List.append_eq_nil_iff, List.map_eq_nil_iff, List.flatMap_eq_nil_iff,
    repeated_eq_nil]
  constructor
  · rintro ⟨⟨⟨hdtos, hmethods⟩, hfields⟩, hparameters⟩
    exact ⟨hdtos, hmethods, hfields, hparameters⟩
  · rintro ⟨hdtos, hmethods, hfields, hparameters⟩
    exact ⟨⟨⟨hdtos, hmethods⟩, hfields⟩, hparameters⟩

instance (api : Api) : Decidable api.Consistent := decidable_of_iff _ defects_eq_nil

theorem hasDefects_check : api.check.hasDefects = true ↔ ¬ api.Consistent := by
  rw [← defects_eq_nil]
  simp [Findings.hasDefects, check]

/-! ### Warnings -/

/-- Every reference leads to a DTO of the model, and every DTO has fields. -/
structure Complete (api : Api) : Prop where
  references : ∀ member ∈ api.members, ∀ name, member.type.Refers name →
    ∃ dto ∈ api.dtos, dto.name = name
  fields : ∀ dto ∈ api.dtos, dto.fields ≠ []

/-- What the model refers to without holding it, or holds without fields. -/
inductive HasCaution (api : Api) : Caution → Prop
  | unknownFieldType {dto : Dto} {field : Member} {name : String} (hdto : dto ∈ api.dtos)
      (hfield : field ∈ dto.fields) (h : api.RefersToUnknown field.type name) :
    HasCaution api (.unknownFieldType dto.name field.name name)
  | unknownParameterType {method : Method} {parameter : Member} {name : String}
      (hmethod : method ∈ api.methods) (hparameter : parameter ∈ method.parameters)
      (h : api.RefersToUnknown parameter.type name) :
    HasCaution api (.unknownParameterType method.name parameter.name name)
  | emptyDto {dto : Dto} (hdto : dto ∈ api.dtos) (h : dto.fields = []) :
    HasCaution api (.emptyDto dto.name)

/-- The check finds the unknown references and the empty DTOs and nothing else. -/
theorem mem_cautions {caution : Caution} : caution ∈ api.cautions ↔ api.HasCaution caution := by
  unfold cautions
  simp only [List.mem_append, List.mem_map, List.mem_flatMap, List.mem_filterMap, List.mem_filter,
    Option.map_eq_some_iff, unknownReference?_eq_some, List.isEmpty_iff]
  constructor
  · rintro ((⟨dto, hdto, field, hfield, name, h, rfl⟩ |
      ⟨method, hmethod, parameter, hparameter, name, h, rfl⟩) | ⟨dto, ⟨hdto, h⟩, rfl⟩)
    · exact .unknownFieldType hdto hfield h
    · exact .unknownParameterType hmethod hparameter h
    · exact .emptyDto hdto h
  · intro h
    cases h with
    | unknownFieldType hdto hfield h => exact .inl (.inl ⟨_, hdto, _, hfield, _, h, rfl⟩)
    | unknownParameterType hmethod hparameter h =>
      exact .inl (.inr ⟨_, hmethod, _, hparameter, _, h, rfl⟩)
    | emptyDto hdto h => exact .inr ⟨_, ⟨hdto, h⟩, rfl⟩

theorem mem_members {member : Member} : member ∈ api.members ↔
    (∃ dto ∈ api.dtos, member ∈ dto.fields) ∨
      ∃ method ∈ api.methods, member ∈ method.parameters := by
  unfold members
  rw [List.mem_append, List.mem_flatMap, List.mem_flatMap]

/-- If the check warns of empty DTOs at most, a reference leads to a DTO. -/
theorem exists_dto_of_refers {member : Member} {name : String}
    (hresolved : ∀ caution ∈ api.check.cautions, ∃ name, caution = .emptyDto name)
    (hmember : member ∈ api.members) (hrefers : member.type.Refers name) :
    ∃ dto ∈ api.dtos, dto.name = name := by
  by_contra hno
  have hunknown : api.RefersToUnknown member.type name :=
    ⟨hrefers, fun dto hdto hname => hno ⟨dto, hdto, hname⟩⟩
  rcases mem_members.1 hmember with ⟨dto, hdto, hfield⟩ | ⟨method, hmethod, hparameter⟩
  · have hcaution := mem_cautions.2 (.unknownFieldType hdto hfield hunknown)
    obtain ⟨_, h⟩ := hresolved _ hcaution
    cases h
  · have hcaution := mem_cautions.2 (.unknownParameterType hmethod hparameter hunknown)
    obtain ⟨_, h⟩ := hresolved _ hcaution
    cases h

theorem cautions_eq_nil : api.cautions = [] ↔ api.Complete := by
  rw [List.eq_nil_iff_forall_not_mem]
  constructor
  · intro h
    have hresolved : ∀ caution ∈ api.check.cautions, ∃ name, caution = .emptyDto name :=
      fun caution hcaution => absurd hcaution (h caution)
    exact ⟨fun _ hmember _ hrefers => exists_dto_of_refers hresolved hmember hrefers,
      fun _ hdto hempty => h _ (mem_cautions.2 (.emptyDto hdto hempty))⟩
  · intro h caution hcaution
    cases mem_cautions.1 hcaution with
    | unknownFieldType hdto hfield hunknown =>
      obtain ⟨known, hknown, hname⟩ :=
        h.references _ (mem_members.2 (.inl ⟨_, hdto, hfield⟩)) _ hunknown.1
      exact hunknown.2 known hknown hname
    | unknownParameterType hmethod hparameter hunknown =>
      obtain ⟨known, hknown, hname⟩ :=
        h.references _ (mem_members.2 (.inr ⟨_, hmethod, hparameter⟩)) _ hunknown.1
      exact hunknown.2 known hknown hname
    | emptyDto hdto hempty => exact h.fields _ hdto hempty

end Api
end ApiScribe
