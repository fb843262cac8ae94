import Mathlib.Logic.Relation
import ApiScribe.Proofs.Json.Strings
import ApiScribe.Proofs.Resolution.UsedNames

/-!
# Used names and references of one view

The view of a DTO says twice what its fields refer to: at each field, and in the list of the names
that the DTO uses.  The list is sorted by code points and has no name twice, which leaves no choice
once it is said which names it has (`IsSortedListOf.unique`).  So the two agree, and the list stays
the same for as long as no type comes or goes among the fields (`Rearranges`).

Main statement: `Resolver.dto_uses_references`, for every renderer, with a memory or without.
-/

namespace ApiScribe

/-! ### Sorted lists of names -/

/-- The given spelling comes before the other one in the order of code points. -/
def Names.Precedes (a b : Names) : Prop := Json.codePoints a.given < Json.codePoints b.given

instance : Std.Irrefl Names.Precedes := ⟨fun names => lt_irrefl (Json.codePoints names.given)⟩

instance : Std.Antisymm Names.Precedes := ⟨fun _ _ h h' => absurd h' (lt_asymm h)⟩

theorem codePoints_lt {s t : String} (h : s < t) : Json.codePoints s < Json.codePoints t := by
  -- characters are compared by their numbers already
  have hchar : ∀ c d : Char, c < d → c.toNat < d.toNat := fun _ _ hcd => hcd
  exact List.map_lt hchar (String.lt_iff_toList_lt.1 h)

/-- The list has the names with a property, in increasing order and so each once. -/
structure IsSortedListOf (wanted : Names → Prop) (names : List Names) : Prop where
  increasing : names.Pairwise Names.Precedes
  mem_iff (name : Names) : name ∈ names ↔ wanted name

namespace IsSortedListOf

variable {wanted wanted' : Names → Prop} {names names' : List Names}

/-- The order leaves no choice. -/
theorem unique (h : IsSortedListOf wanted names) (h' : IsSortedListOf wanted names') :
    names = names' :=
  h.increasing.eq_of_mem_iff h'.increasing fun name => (h.mem_iff name).trans (h'.mem_iff name).symm

theorem congr (hwanted : ∀ name, wanted name ↔ wanted' name) (h : IsSortedListOf wanted names) :
    IsSortedListOf wanted' names :=
  ⟨h.increasing, fun name => (h.mem_iff name).trans (hwanted name)⟩

theorem eq_iff (h : IsSortedListOf wanted names) : names' = names ↔ IsSortedListOf wanted names' :=
  ⟨fun heq => heq ▸ h, fun h' => h'.unique h⟩

end IsSortedListOf

/-- The names are those of an entity, other than the owner, that a member's type refers to in any
wrapper. -/
def RefersToOther (owner : String) (members : List Member) (names : Names) : Prop :=
  ∃ name, names = Names.of name ∧ name ≠ owner ∧ ∃ m ∈ members, m.type.Refers name

theorem isSortedListOf_usedDtoNames (owner : String) (members : List Member) :
    IsSortedListOf (RefersToOther owner members) (usedDtoNames owner members) := by
  obtain ⟨names, hnames, huses⟩ := exists_usesExactly owner members
  rw [hnames]
  constructor
  · exact List.pairwise_map.2 (huses.increasing.imp codePoints_lt)
  · intro name
    rw [List.mem_map]
    constructor
    · rintro ⟨s, hs, rfl⟩
      exact ⟨s, rfl, (huses.mem_iff s).1 hs⟩
    · rintro ⟨s, rfl, hs⟩
      exact ⟨s, (huses.mem_iff s).2 hs, rfl⟩

/-! ### Changes among the fields -/

/-- A change of a list of fields that keeps the types in use: the fields come in another order, one
of them occurs once more, or one of them gets another name. -/
inductive Rearranges : List Member → List Member → Prop
  | permute {fields fields' : List Member} (h : fields.Perm fields') : Rearranges fields fields'
  | again (before after : List Member) {field : Member} (h : field ∈ before ++ after) :
    Rearranges (before ++ after) (before ++ field :: after)
  | rename (before after : List Member) (field : Member) (name : String) :
    Rearranges (before ++ field :: after) (before ++ { field with name } :: after)

/-- One change keeps the types in use. -/
theorem Rearranges.mem_types_iff {fields fields' : List Member} (h : Rearranges fields fields')
    (type : TypeDescriptor) : type ∈ fields'.map Member.type ↔ type ∈ fields.map Member.type := by
  cases h with
  | permute h => exact (h.map Member.type).mem_iff.symm
  | @again before after field h =>
    have hold : field.type ∈ (before ++ after).map Member.type := List.mem_map_of_mem h
    rw [List.map_append, List.mem_append] at hold ⊢
    rw [List.map_append, List.map_cons, List.mem_append, List.mem_cons]
    constructor
    · rintro (hbefore | rfl | hafter)
      · exact .inl hbefore
      · exact hold
      · exact .inr hafter
    · rintro (hbefore | hafter)
      · exact .inl hbefore
      · exact .inr (.inr hafter)
  | rename before after field name =>
    -- the new name is no part of the type
    rw [List.map_append, List.map_append, List.map_cons, List.map_cons]

/-- Any number of changes keeps the types in use. -/
theorem mem_types_iff_of_rearranges {fields fields' : List Member}
    (h : Relation.ReflTransGen Rearranges fields fields') (type : TypeDescriptor) :
    type ∈ fields'.map Member.type ↔ type ∈ fields.map Member.type := by
  induction h with
  | refl => exact Iff.rfl
  | tail _ hstep ih => exact (hstep.mem_types_iff type).trans ih

theorem exists_refers_iff {members : List Member} {name : String} :
    (∃ m ∈ members, m.type.Refers name) ↔
      ∃ type ∈ members.map Member.type, type.Refers name := by
  simp only [List.mem_map, exists_exists_and_eq_and]

/-- The used names depend on the types in use alone. -/
theorem usedDtoNames_eq_of_types {owner : String} {members others : List Member}
    (h : ∀ type, type ∈ others.map Member.type ↔ type ∈ members.map Member.type) :
    usedDtoNames owner others = usedDtoNames owner members := by
  have hrefers : ∀ names, RefersToOther owner members names ↔ RefersToOther owner others names := by
    intro names
    unfold RefersToOther
    simp only [exists_refers_iff, h]
  have hmembers := (isSortedListOf_usedDtoNames owner members).congr hrefers
  exact (isSortedListOf_usedDtoNames owner others).unique hmembers

/-! ### The view of a DTO -/

namespace Resolver

variable {μ : Type} {r : Resolver μ}

/-- The references of the members' views, other than to the owner, are those of the types. -/
theorem refersToOther_iff {owner : Names} {entity : String} {members : List Member}
    {views : List MemberView} {names : Names}
    (h : List.Forall₂ (fun m v => (r.memberView owner m).CanGive v) members views) :
    RefersToOther entity members names ↔
      names.given ≠ entity ∧ ∃ v ∈ views, v.reference = some names := by
  rw [exists_reference_iff h]
  constructor
  · rintro ⟨name, rfl, hne, m, hm, hrefers⟩
    exact ⟨hne, m, hm, name, hrefers, rfl⟩
  · rintro ⟨hne, m, hm, name, hrefers, rfl⟩
    exact ⟨name, rfl, hne, m, hm, hrefers⟩

/-- The names that the view of a DTO uses.  They are the sorted list of what the types of its fields
refer to in any wrapper, other than the DTO as the document names it.  They are as well the sorted
list of the references in the views of the fields, other than to that name.  A view of the DTO with
its fields in another order, repeated or under other names has the same used names, whatever
renderer makes it. -/
theorem dto_uses_references {dto : Dto} {memory : μ} {v : DtoView}
    (hview : (r.dtoView dto memory).outcome = .ok v) :
    (∀ used, used = v.usedDtoNames ↔ IsSortedListOf (RefersToOther dto.name dto.fields) used) ∧
    (∀ used, used = v.usedDtoNames ↔ IsSortedListOf
      (fun names => names.given ≠ dto.name ∧ ∃ field ∈ v.fields, field.reference = some names)
      used) ∧
    ∀ fields, Relation.ReflTransGen Rearranges dto.fields fields →
      ∀ (ν : Type) (other : Resolver ν) (memory' : ν) (v' : DtoView),
        (other.dtoView { dto with fields } memory').outcome = .ok v' →
          v'.usedDtoNames = v.usedDtoNames := by
  obtain ⟨-, hfields, hused⟩ := of_dtoView ⟨memory, hview⟩
  have hdocument := isSortedListOf_usedDtoNames dto.name dto.fields
  rw [← hused] at hdocument
  refine ⟨fun used => hdocument.eq_iff, fun used => ?_, ?_⟩
  · -- the view's references are those of the types, so the same names are asked for
    exact (hdocument.congr fun names => refersToOther_iff hfields).eq_iff
  · intro fields hrearranged ν other memory' v' hview'
    obtain ⟨-, -, hused'⟩ := of_dtoView ⟨memory', hview'⟩
    -- neither list depends on the renderer
    rw [hused', hused]
    exact usedDtoNames_eq_of_types (mem_types_iff_of_rearranges hrearranged)

/-- A DTO that refers to one name twice, to another one in two wrappers, and to itself. -/
def account : Dto :=
  ⟨"Account", [⟨"owner", .reference "user"⟩, ⟨"zones", .optional (.array (.reference "Zone"))⟩,
    ⟨"parent", .optional (.reference "Account")⟩, ⟨"size", .integer⟩,
    ⟨"guests", .array (.reference "user")⟩]⟩

/-- The fields of `account` from the last to the first, with a second `size` and the owner under
another name. -/
def accountFields : List Member :=
  [⟨"guests", .array (.reference "user")⟩, ⟨"size", .integer⟩,
    ⟨"parent", .optional (.reference "Account")⟩, ⟨"zones", .optional (.array (.reference "Zone"))⟩,
    ⟨"size", .integer⟩, ⟨"holder", .reference "user"⟩]

theorem rearranges_accountFields :
    Relation.ReflTransGen Rearranges account.fields accountFields := by
  have hreverse : Rearranges account.fields account.fields.reverse :=
    .permute (List.reverse_perm _).symm
  have hagain : Rearranges account.fields.reverse
      (account.fields.reverse.take 4 ++ ⟨"size", .integer⟩ :: account.fields.reverse.drop 4) :=
    .again (account.fields.reverse.take 4) (account.fields.reverse.drop 4) (by decide)
  have hrename : Rearranges
      (account.fields.reverse.take 4 ++ ⟨"size", .integer⟩ :: account.fields.reverse.drop 4)
      accountFields :=
    .rename (accountFields.take 5) [] ⟨"owner", .reference "user"⟩ "holder"
  exact ((Relation.ReflTransGen.single hreverse).tail hagain).tail hrename

theorem refersToOther_account {names : Names} :
    RefersToOther "Account" account.fields names ↔
      names = Names.of "Zone" ∨ names = Names.of "user" := by
  simp only [RefersToOther, account, ← TypeDescriptor.referencedName?_eq_some, List.mem_cons,
    List.not_mem_nil, or_false, exists_eq_or_imp, exists_eq_left, TypeDescriptor.referencedName?,
    Option.some.injEq, reduceCtorEq, false_or]
  constructor
  · rintro ⟨name, rfl, hne, rfl | rfl | rfl | rfl⟩
    · exact .inr rfl
    · exact .inl rfl
    · exact absurd rfl hne
    · exact .inr rfl
  · rintro (rfl | rfl)
    · exact ⟨"Zone", rfl, by decide, .inr (.inl rfl)⟩
    · exact ⟨"user", rfl, by decide, .inl rfl⟩

/-- Capitals come before small letters.  The DTO leaves out itself, and the change of its fields
counts for nothing. -/
theorem dto_uses_references_account :
    ∃ v v', (constant.dtoView account ()).outcome = .ok v ∧
      v.usedDtoNames = [Names.of "Zone", Names.of "user"] ∧
      Relation.ReflTransGen Rearranges account.fields accountFields ∧
      (constant.dtoView { account with fields := accountFields } ()).outcome = .ok v' ∧
      v'.usedDtoNames = v.usedDtoNames := by
  have hview : ∃ v, (constant.dtoView account ()).outcome = .ok v := ⟨_, rfl⟩
  have hview' : ∃ v', (constant.dtoView { account with fields := accountFields } ()).outcome =
      .ok v' := ⟨_, rfl⟩
  obtain ⟨v, hview⟩ := hview
  obtain ⟨v', hview'⟩ := hview'
  obtain ⟨hdocument, -, hkept⟩ := dto_uses_references hview
  have hsorted : IsSortedListOf (RefersToOther account.name account.fields)
      [Names.of "Zone", Names.of "user"] := by
    refine ⟨List.pairwise_pair.2 (codePoints_lt (by decide)), fun names => ?_⟩
    rw [List.mem_pair]
    exact refersToOther_account.symm
  exact ⟨v, v', hview, ((hdocument _).2 hsorted).symm, rearranges_accountFields, hview',
    hkept _ rearranges_accountFields _ constant () v' hview'⟩

end Resolver
end ApiScribe
