import ApiScribe.Proofs.Consistency

/-!
# The findings of a check, one by one

`Api.mem_defects` and `Api.mem_cautions` say what the check of a model finds.  How often it reports
a finding and in which order is said here: a name once, where it occurs first, however often the
model repeats it; then entity by entity, and within an entity member by member.  `ListsDefects` and
`ListsCautions` spell this out, and leave no choice (`Api.check_lists`).  The order of the entities
is all that the order of the findings depends on: with other entities first the findings are the
same ones.
-/

namespace ApiScribe

/-! ### Results of items -/

section
variable {α β : Type} {R : α → β → Prop}

/-- One result for each item that has one, in the order of the items. -/
inductive OnePer (R : α → β → Prop) : List α → List β → Prop
  | nil : OnePer R [] []
  | found {a : α} {b : β} {as : List α} {bs : List β} (h : R a b) (rest : OnePer R as bs) :
    OnePer R (a :: as) (b :: bs)
  | none {a : α} {as : List α} {bs : List β} (h : ∀ b, ¬ R a b) (rest : OnePer R as bs) :
    OnePer R (a :: as) bs

/-- The results of one item after those of the other, in the order of the items. -/
inductive InTurn (R : α → List β → Prop) : List α → List β → Prop
  | nil : InTurn R [] []
  | cons {a : α} {as : List α} {bs cs : List β} (h : R a bs) (rest : InTurn R as cs) :
    InTurn R (a :: as) (bs ++ cs)

theorem onePer_iff {f : α → Option β} (hf : ∀ a b, f a = some b ↔ R a b) {as : List α}
    {bs : List β} : OnePer R as bs ↔ bs = as.filterMap f := by
  constructor
  · intro h
    induction h with
    | nil => rfl
    | found h _ ih => rw [ih, List.filterMap_cons_some ((hf _ _).2 h)]
    | none h _ ih =>
      have hnone := Option.eq_none_iff_forall_ne_some.2 fun b hb => h b ((hf _ b).1 hb)
      rw [ih, List.filterMap_cons_none hnone]
  · rintro rfl
    induction as with
    | nil => exact .nil
    | cons a as ih =>
      cases ha : f a with
      | some b =>
        rw [List.filterMap_cons_some ha]
        exact .found ((hf a b).1 ha) ih
      | none =>
        rw [List.filterMap_cons_none ha]
        refine .none (fun b hb => ?_) ih
        rw [(hf a b).2 hb] at ha
        cases ha

theorem inTurn_iff {R : α → List β → Prop} {f : α → List β} (hf : ∀ a bs, R a bs ↔ bs = f a)
    {as : List α} {bs : List β} : InTurn R as bs ↔ bs = as.flatMap f := by
  constructor
  · intro h
    induction h with
    | nil => rfl
    | cons h _ ih => rw [List.flatMap_cons, ih, (hf _ _).1 h]
  · rintro rfl
    induction as with
    | nil => exact .nil
    | cons a as ih =>
      rw [List.flatMap_cons]
      exact .cons ((hf a _).2 rfl) ih

end

/-! ### Repeated names -/

/-- The names that occur at least twice, each once, in order of first occurrence. -/
structure ListsRepeated (names found : List String) : Prop where
  mem_iff (name : String) : name ∈ found ↔ 2 ≤ names.count name
  ordered : found.Pairwise fun a b => names.idxOf a < names.idxOf b

/-- One more name in front of the others leaves the order of these as it is. -/
theorem pairwise_idxOf_cons {name : String} {names found : List String} (hname : name ∉ found)
    (h : found.Pairwise fun a b => names.idxOf a < names.idxOf b) :
    found.Pairwise fun a b => (name :: names).idxOf a < (name :: names).idxOf b := by
  refine h.imp_of_mem fun {a b} ha hb hlt => ?_
  have hne {other : String} (h : other ∈ found) : name ≠ other := by
    rintro rfl
    exact hname h
  rw [List.idxOf_cons_ne _ (hne ha), List.idxOf_cons_ne _ (hne hb)]
  exact Nat.succ_lt_succ hlt

theorem not_mem_eraseDups_filter {p : String → Bool} {name : String} (hp : p name = false)
    (names : List String) : name ∉ (names.filter p).eraseDups := by
  rw [List.mem_eraseDups, List.mem_filter, hp]
  exact fun h => Bool.false_ne_true h.2

/-- The names that are kept come in order of first occurrence among all names, those that are left
out included. -/
theorem pairwise_idxOf_eraseDups (p : String → Bool) (names : List String) :
    ((names.filter p).eraseDups).Pairwise fun a b => names.idxOf a < names.idxOf b := by
  induction names generalizing p with
  | nil => exact .nil
  | cons name names ih =>
    have hrest (q : String → Bool) (hq : q name = false) :=
      pairwise_idxOf_cons (not_mem_eraseDups_filter hq names) (ih q)
    cases hp : p name with
    | false =>
      rw [List.filter_cons_of_neg (Bool.eq_false_iff.1 hp)]
      exact hrest p hp
    | true =>
      -- the first name is kept, and of the rest what is kept without it
      rw [List.filter_cons_of_pos hp, List.eraseDups_cons, List.filter_filter, List.pairwise_cons]
      have hself : (!name == name && p name) = false := by simp
      refine ⟨fun other hother => ?_, hrest _ hself⟩
      have hne : name ≠ other := by
        rintro rfl
        exact not_mem_eraseDups_filter hself names hother
      rw [List.idxOf_cons_self, List.idxOf_cons_ne _ hne]
      exact Nat.succ_pos _

theorem listsRepeated_repeated (names : List String) : ListsRepeated names (repeated names) :=
  ⟨fun _ => mem_repeated, pairwise_idxOf_eraseDups _ names⟩

namespace ListsRepeated

variable {names found found' : List String}

theorem nodup (h : ListsRepeated names found) : found.Nodup :=
  h.ordered.imp fun hlt heq => absurd (congrArg names.idxOf heq) (Nat.ne_of_lt hlt)

/-- The order leaves no choice. -/
theorem unique (h : ListsRepeated names found) (h' : ListsRepeated names found') :
    found = found' := by
  have hperm : found.Perm found' := (List.perm_ext_iff_of_nodup h.nodup h'.nodup).2 fun name =>
    (h.mem_iff name).trans (h'.mem_iff name).symm
  exact hperm.eq_of_pairwise (fun _ _ _ _ hlt hlt' => absurd hlt' (Nat.not_lt_of_gt hlt))
    h.ordered h'.ordered

end ListsRepeated

theorem listsRepeated_iff {names found : List String} :
    ListsRepeated names found ↔ found = repeated names := by
  constructor
  · intro h
    exact h.unique (listsRepeated_repeated names)
  · rintro rfl
    exact listsRepeated_repeated names

/-- One error for each repeated name, in order of first occurrence. -/
def EachRepeated (names : List String) (error : String → Defect) (found : List Defect) : Prop :=
  ∃ listed, ListsRepeated names listed ∧ found = listed.map error

theorem eachRepeated_iff {names : List String} {error : String → Defect} {found : List Defect} :
    EachRepeated names error found ↔ found = (repeated names).map error := by
  simp only [EachRepeated, listsRepeated_iff, exists_eq_left]

theorem inTurn_eachRepeated {α : Type} {names : α → List String} {error : α → String → Defect}
    {as : List α} {found : List Defect} :
    InTurn (fun a => EachRepeated (names a) (error a)) as found ↔
      found = as.flatMap fun a => (repeated (names a)).map (error a) := by
  refine inTurn_iff fun a bs => ?_
  exact eachRepeated_iff

theorem repeated_perm {names names' : List String} (h : names.Perm names') :
    (repeated names).Perm (repeated names') := by
  refine (List.perm_ext_iff_of_nodup (listsRepeated_repeated _).nodup
    (listsRepeated_repeated _).nodup).2 fun name => ?_
  rw [mem_repeated, mem_repeated, h.count_eq]

namespace Api

variable {api : Api}

/-! ### Errors and warnings in order -/

/-- The errors of a model: one for each repeated name of a DTO, then of a method; then, DTO by DTO,
one for each repeated name of a field, and method by method one for each of a parameter. -/
def ListsDefects (api : Api) (found : List Defect) : Prop :=
  ∃ dtos methods fields parameters,
    found = dtos ++ methods ++ fields ++ parameters ∧
    EachRepeated (api.dtos.map Dto.name) .repeatedDto dtos ∧
    EachRepeated (api.methods.map Method.name) .repeatedMethod methods ∧
    InTurn (fun dto => EachRepeated (dto.fields.map Member.name) (.repeatedField dto.name))
      api.dtos fields ∧
    InTurn (fun method =>
        EachRepeated (method.parameters.map Member.name) (.repeatedParameter method.name))
      api.methods parameters

/-- One warning for each member whose type refers to a name that no DTO of the model has. -/
def EachUnknown (api : Api) (warning : Member → String → Caution) :
    List Member → List Caution → Prop :=
  OnePer fun member caution =>
    ∃ name, api.RefersToUnknown member.type name ∧ caution = warning member name

/-- The warnings of a model: one for each field, then for each parameter, whose type refers to a
name that no DTO has; then one for each DTO without fields. -/
def ListsCautions (api : Api) (found : List Caution) : Prop :=
  ∃ fields parameters dtos,
    found = fields ++ parameters ++ dtos ∧
    InTurn (fun dto => api.EachUnknown (fun field => .unknownFieldType dto.name field.name)
      dto.fields) api.dtos fields ∧
    InTurn (fun method =>
        api.EachUnknown (fun parameter => .unknownParameterType method.name parameter.name)
          method.parameters) api.methods parameters ∧
    OnePer (fun dto caution => dto.fields = [] ∧ caution = .emptyDto dto.name) api.dtos dtos

theorem listsDefects_iff {found : List Defect} :
    api.ListsDefects found ↔ found = api.defects := by
  unfold ListsDefects
  simp only [eachRepeated_iff, inTurn_eachRepeated]
  constructor
  · rintro ⟨_, _, _, _, rfl, rfl, rfl, rfl, rfl⟩
    rfl
  · rintro rfl
    exact ⟨_, _, _, _, rfl, rfl, rfl, rfl, rfl⟩

theorem eachUnknown_iff {warning : Member → String → Caution} {members : List Member}
    {found : List Caution} : api.EachUnknown warning members found ↔
      found = members.filterMap fun member =>
        (api.unknownReference? member.type).map (warning member) := by
  refine onePer_iff fun member caution => ?_
  simp only [Option.map_eq_some_iff, unknownReference?_eq_some]
  exact exists_congr fun name => and_congr_right fun _ => eq_comm

theorem inTurn_eachUnknown {α : Type} {warning : α → Member → String → Caution}
    {members : α → List Member} {as : List α} {found : List Caution} :
    InTurn (fun a => api.EachUnknown (warning a) (members a)) as found ↔
      found = as.flatMap fun a => (members a).filterMap fun member =>
        (api.unknownReference? member.type).map (warning a member) := by
  refine inTurn_iff fun a bs => ?_
  exact eachUnknown_iff

theorem onePer_emptyDto_iff {dtos : List Dto} {found : List Caution} :
    OnePer (fun dto caution => dto.fields = [] ∧ caution = .emptyDto dto.name) dtos found ↔
      found = (dtos.filter fun dto => dto.fields.isEmpty).map fun dto => .emptyDto dto.name := by
  rw [← List.filterMap_eq_map, List.filterMap_filter]
  refine onePer_iff fun dto caution => ?_
  rw [Option.ite_none_right_eq_some, List.isEmpty_iff, Function.comp_apply, Option.some_inj]
  exact and_congr_right fun _ => eq_comm

theorem listsCautions_iff {found : List Caution} :
    api.ListsCautions found ↔ found = api.cautions := by
  unfold ListsCautions
  simp only [inTurn_eachUnknown, onePer_emptyDto_iff]
  constructor
  · rintro ⟨_, _, _, rfl, rfl, rfl, rfl⟩
    rfl
  · rintro rfl
    exact ⟨_, _, _, rfl, rfl, rfl, rfl⟩

/-! ### Other orders -/

section
variable {other : Api} (hdtos : other.dtos.Perm api.dtos)

include hdtos in
theorem unknownReference?_perm (type : TypeDescriptor) :
    other.unknownReference? type = api.unknownReference? type := by
  refine Option.ext fun name => ?_
  rw [unknownReference?_eq_some, unknownReference?_eq_some]
  simp only [RefersToUnknown, hdtos.mem_iff]

variable (hmethods : other.methods.Perm api.methods)
include hdtos hmethods

theorem defects_perm : other.defects.Perm api.defects := by
  have hnames := (repeated_perm (hdtos.map Dto.name)).map Defect.repeatedDto
  have hnames' := (repeated_perm (hmethods.map Method.name)).map Defect.repeatedMethod
  exact ((hnames.append hnames').append (hdtos.flatMap_right _)).append (hmethods.flatMap_right _)

theorem cautions_perm : other.cautions.Perm api.cautions := by
  unfold cautions
  simp only [unknownReference?_perm hdtos]
  exact ((hdtos.flatMap_right _).append (hmethods.flatMap_right _)).append
    ((hdtos.filter _).map _)

end

/-- The check lists every finding, nothing else, and each once: there is one list of errors and one
of warnings that are as `ListsDefects` and `ListsCautions` ask, and these are what it reports.  With
the DTOs or the methods in another order it reports the same, in another order. -/
theorem check_lists (api : Api) :
    (∀ found, api.ListsDefects found ↔ found = api.check.defects) ∧
    (∀ found, api.ListsCautions found ↔ found = api.check.cautions) ∧
    ∀ other : Api, other.dtos.Perm api.dtos → other.methods.Perm api.methods →
      other.check.defects.Perm api.check.defects ∧
      other.check.cautions.Perm api.check.cautions :=
  ⟨fun _ => listsDefects_iff, fun _ => listsCautions_iff, fun _ hdtos hmethods =>
    ⟨defects_perm hdtos hmethods, cautions_perm hdtos hmethods⟩⟩

-- three DTOs of one name are one error; a method is no DTO that a type could refer to
example : (Api.mk
    [⟨"B", [⟨"x", .array (.reference "A")⟩, ⟨"y", .optional (.reference "go")⟩]⟩, ⟨"A", []⟩,
      ⟨"B", []⟩, ⟨"A", [⟨"z", .integer⟩, ⟨"z", .string⟩]⟩, ⟨"B", [⟨"x", .boolean⟩]⟩]
    [⟨"go", [⟨"a", .reference "B"⟩, ⟨"b", .array (.array (.reference "C"))⟩]⟩]).check =
    ⟨[.unknownFieldType "B" "y" "go", .unknownParameterType "go" "b" "C", .emptyDto "A",
        .emptyDto "B"],
      [.repeatedDto "B", .repeatedDto "A", .repeatedField "A" "z"]⟩ := by
  decide

end Api
end ApiScribe
