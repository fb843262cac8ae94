import ApiScribe.Artifact
import ApiScribe.Proofs.Json.Values
import ApiScribe.Proofs.Schema.Model

/-!
# Stored models are read back

Writing a model and reading it again are two pipelines, model ⟶ JSON ⟶ text and text ⟶ JSON ⟶
data ⟶ model.  The proof meets in the middle:

* `textual_ofVersioned` — what is written is made of texts, so the text gives the JSON back;
* `spells_ofType`, `api_ofApi` — the JSON of a model, taken as data, describes that model.

A type of more than `TypeDescriptor.depthLimit` wrappers is where the two ends do not meet: a model
that holds one can be built from a document but is not written.
-/

namespace ApiScribe.Artifact

open Json (Textual)

/-! ### What is written is made of texts -/

section
variable {levels : Nat}

theorem textual_ofType {t : TypeDescriptor} (h : t.depth < levels) : Textual levels (ofType t) := by
  induction t generalizing levels with
  | integer | string | boolean =>
    obtain ⟨levels, rfl⟩ := Nat.exists_eq_add_of_le' (Nat.zero_lt_of_lt h)
    refine @Textual.object _ [("kind", .string _)] (by simp) ?_
    simp [Textual.string]
  | reference name =>
    obtain ⟨levels, rfl⟩ := Nat.exists_eq_add_of_le' (Nat.zero_lt_of_lt h)
    refine @Textual.object _ [("kind", .string "reference"), ("name", .string name)] (by simp) ?_
    simp [Textual.string]
  | array element ih =>
    obtain ⟨levels, rfl⟩ := Nat.exists_eq_add_of_le' (Nat.zero_lt_of_lt h)
    refine @Textual.object _ [("kind", .string "array"), ("element_type", ofType element)]
      (by simp) ?_
    simp [Textual.string, ih (Nat.lt_of_succ_lt_succ h)]
  | optional inner ih =>
    obtain ⟨levels, rfl⟩ := Nat.exists_eq_add_of_le' (Nat.zero_lt_of_lt h)
    refine @Textual.object _ [("kind", .string "optional"), ("inner_type", ofType inner)]
      (by simp) ?_
    simp [Textual.string, ih (Nat.lt_of_succ_lt_succ h)]

theorem textual_ofMember {m : Member} (h : m.type.depth < levels) :
    Textual (levels + 1) (ofMember m) := by
  refine @Textual.object _ [("name", .string m.name), ("type", ofType m.type)] (by simp) ?_
  simp [Textual.string, textual_ofType h]

/-- A list of values made of texts is made of texts. -/
theorem textual_array_map {α : Type} {f : α → Json} {as : List α}
    (h : ∀ a ∈ as, Textual levels (f a)) : Textual (levels + 1) (.array (as.map f)) :=
  .array (List.forall_mem_map.2 h)

theorem textual_ofDto {dto : Dto} (h : ∀ m ∈ dto.fields, m.type.depth < levels) :
    Textual (levels + 3) (ofDto dto) := by
  refine @Textual.object _
    [("name", .string dto.name), ("fields", .array (dto.fields.map ofMember))] (by simp) ?_
  simp [Textual.string, textual_array_map fun m hm => textual_ofMember (h m hm)]

theorem textual_ofMethod {method : Method} (h : ∀ m ∈ method.parameters, m.type.depth < levels) :
    Textual (levels + 3) (ofMethod method) := by
  refine @Textual.object _ [("name", .string method.name),
    ("parameters", .array (method.parameters.map ofMember))] (by simp) ?_
  simp [Textual.string, textual_array_map fun m hm => textual_ofMember (h m hm)]

variable {api : Api}

theorem textual_ofApi (h : ∀ m ∈ api.members, m.type.depth < levels) :
    Textual (levels + 5) (ofApi api) := by
  have hdtos : Textual (levels + 4) (.array (api.dtos.map ofDto)) := by
    refine textual_array_map fun dto hdto => textual_ofDto fun m hm => h m ?_
    exact List.mem_append_left _ (List.mem_flatMap.2 ⟨dto, hdto, hm⟩)
  have hmethods : Textual (levels + 4) (.array (api.methods.map ofMethod)) := by
    refine textual_array_map fun method hmethod => textual_ofMethod fun m hm => h m ?_
    exact List.mem_append_right _ (List.mem_flatMap.2 ⟨method, hmethod, hm⟩)
  refine @Textual.object _ [("dtos", .array (api.dtos.map ofDto)),
    ("methods", .array (api.methods.map ofMethod))] (by simp) ?_
  simp [hdtos, hmethods]

/-- The types of a model stand inside of six brackets, and the innermost of each in one more. -/
theorem textual_ofVersioned (h : ∀ m ∈ api.members, m.type.depth < levels) :
    Textual (levels + 6) (ofVersioned (ofApi api)) := by
  refine @Textual.object _ [("v", .string version), ("api", ofApi api)] (by simp) ?_
  simp [Textual.string, textual_ofApi h]

end

/-! ### What is written describes the model -/

theorem toData_eq_map (vs : List Json) : Json.toData vs = vs.map Json.toDatum := by
  induction vs with
  | nil => rfl
  | cons v vs ih => rw [Json.toData, ih, List.map_cons]

/-- The JSON of a type spells that type. -/
theorem spells_ofType (t : TypeDescriptor) : Schema.Spells (ofType t).toDatum t := by
  induction t with
  | integer => exact .integer rfl
  | string => exact .string rfl
  | boolean => exact .boolean rfl
  | reference name => exact .reference rfl rfl
  | array element ih => exact .array rfl rfl ih
  | optional inner ih => exact .optional rfl rfl ih

/-- The type of a member can be stored. -/
def Storable (m : Member) : Prop :=
  m.type.Admissible ∧ m.type.depth ≤ TypeDescriptor.depthLimit

theorem holdsList_map_toDatum {α : Type} {f : α → Json} {item : Datum → α → Prop} {as : List α}
    {key : String} {members : List (Datum.Key × Datum)}
    (hkey : Datum.member? key members = some (Json.array (as.map f)).toDatum)
    (h : ∀ a ∈ as, item (f a).toDatum a) : Schema.HoldsList item key members as := by
  rw [Json.toDatum, toData_eq_map, List.map_map] at hkey
  refine .inr ⟨_, hkey, ?_⟩
  rw [List.forall₂_map_left_iff, List.forall₂_same]
  exact h

/-- The JSON of a model has the shape of that model. -/
theorem isApi_ofApi {rule : TypeDescriptor → Prop} {api : Api}
    (h : ∀ m ∈ api.members, rule m.type) : Schema.IsApi rule (ofApi api).toDatum api := by
  have hmember : ∀ m ∈ api.members, Schema.IsMember rule (ofMember m).toDatum m :=
    fun m hm => ⟨_, rfl, rfl, _, rfl, spells_ofType m.type, h m hm⟩
  refine ⟨_, rfl, holdsList_map_toDatum rfl ?_, holdsList_map_toDatum rfl ?_⟩
  · intro dto hdto
    refine ⟨_, rfl, rfl, holdsList_map_toDatum rfl fun m hm => hmember m ?_⟩
    exact List.mem_append_left _ (List.mem_flatMap.2 ⟨dto, hdto, hm⟩)
  · intro method hmethod
    refine ⟨_, rfl, rfl, holdsList_map_toDatum rfl fun m hm => hmember m ?_⟩
    exact List.mem_append_right _ (List.mem_flatMap.2 ⟨method, hmethod, hm⟩)

theorem api_ofApi {api : Api} (h : ∀ m ∈ api.members, Storable m) :
    Schema.api (ofApi api).toDatum = .ok api :=
  Schema.isApi_iff.2 (isApi_ofApi h)

/-! ### Writing and reading -/

theorem admissible_iff {api : Api} :
    api.Admissible ↔ ∀ m ∈ api.members, m.type.Admissible := by
  unfold Api.Admissible Api.members
  simp only [List.mem_append, List.mem_flatMap]
  constructor
  · rintro ⟨hd, hm⟩ m (⟨dto, hdto, hf⟩ | ⟨method, hmethod, hp⟩)
    · exact hd dto hdto m hf
    · exact hm method hmethod m hp
  · intro h
    exact ⟨fun dto hdto m hf => h m (.inl ⟨dto, hdto, hf⟩),
      fun method hmethod m hp => h m (.inr ⟨method, hmethod, hp⟩)⟩

/-- A model is written exactly when none of its types has too many wrappers. -/
theorem write_eq_ok {indent : Option Nat} {api : Api} {text : String} :
    write indent api = .ok text ↔
      (∀ m ∈ api.members, m.type.depth ≤ TypeDescriptor.depthLimit) ∧
        text = String.ofList (Json.text indent (ofVersioned (ofApi api))) := by
  unfold write stored admits
  split
  · next h =>
    simp only [List.all_eq_true, decide_eq_true_eq] at h
    simp only [Except.map, Except.ok.injEq]
    exact ⟨fun ht => ⟨h, ht.symm⟩, fun ht => ht.2.symm⟩
  · next h =>
    simp only [List.all_eq_true, decide_eq_true_eq] at h
    constructor
    · intro ht
      cases ht
    · intro ht
      exact absurd ht.1 h

theorem write_eq_error {indent : Option Nat} {api : Api} {m : Member} (hm : m ∈ api.members)
    (hd : TypeDescriptor.depthLimit < m.type.depth) :
    write indent api = .error .typeTooDeep := by
  have hn : ¬ (api.members.all fun m => admits m.type) = true := by
    intro h
    have hadmits := List.all_eq_true.1 h m hm
    rw [admits, decide_eq_true_eq] at hadmits
    omega
  rw [write, stored, if_neg hn]
  rfl

/-- An object of the known version holds a model if the schema accepts what is under `api`, or the
empty object where nothing is. -/
theorem ofJson_eq_ok {v : Json} {api : Api} : ofJson v = .ok api ↔
    (∃ members, v = .object members) ∧ v.member? "v" = some (.string version) ∧
      Schema.api ((v.member? "api").getD (.object [])).toDatum = .ok api := by
  constructor
  · intro h
    unfold ofJson at h
    split at h
    · next members =>
      split at h
      · next hv =>
        split at h
        · next hapi =>
          cases h
          exact ⟨⟨members, rfl⟩, hv, hapi⟩
        · cases h
      · cases h
    · cases h
  · rintro ⟨⟨members, rfl⟩, hv, hapi⟩
    rw [Json.member?] at hv hapi
    unfold ofJson
    dsimp only
    rw [hv, hapi]
    rfl

section
variable {levels : Nat} {text : String} {api : Api}

theorem readWithin_eq_ok : readWithin levels text = .ok api ↔
    ∃ v, Json.readWithin levels text.toList = .ok v ∧ ofJson v = .ok api := by
  unfold readWithin
  constructor
  · intro h
    split at h
    · cases h
    · cases h
    · cases h
    · next v hread =>
      split at h
      · next hv =>
        cases h
        exact ⟨v, hread, hv⟩
      · cases h
  · rintro ⟨v, hread, hv⟩
    rw [hread]
    dsimp only
    rw [hv]

/-- Models that can be stored leave some of the levels of brackets that a run reads. -/
theorem textual_of_storable (h : ∀ m ∈ api.members, Storable m) :
    Textual Json.nestingLimit (ofVersioned (ofApi api)) :=
  (textual_ofVersioned fun m hm => Nat.lt_succ_of_le (h m hm).2).mono (by decide)

/-- A model whose types can all be stored is read back from the text that stores it, also if space
follows it. -/
theorem read_written_append {indent : Option Nat} {rest : List Char}
    (h : ∀ m ∈ api.members, Storable m) (hrest : Json.skipSpace rest = []) :
    read (String.ofList (Json.text indent (ofVersioned (ofApi api)) ++ rest)) = .ok api := by
  refine readWithin_eq_ok.2 ⟨ofVersioned (ofApi api), ?_, ?_⟩
  · rw [String.toList_ofList]
    exact Json.readWithin_text_append indent (textual_of_storable h) hrest
  · exact ofJson_eq_ok.2 ⟨⟨_, rfl⟩, rfl, api_ofApi h⟩

theorem read_written {indent : Option Nat} (h : ∀ m ∈ api.members, Storable m) :
    read (String.ofList (Json.text indent (ofVersioned (ofApi api)))) = .ok api := by
  have hr : read (String.ofList (Json.text indent (ofVersioned (ofApi api)) ++ [])) = .ok api :=
    read_written_append h rfl
  rwa [List.append_nil] at hr

/-- What is read from any text can be stored. -/
theorem storable_of_readWithin (h : readWithin levels text = .ok api) :
    ∀ m ∈ api.members, Storable m := by
  obtain ⟨v, -, hv⟩ := readWithin_eq_ok.1 h
  obtain ⟨-, -, hapi⟩ := ofJson_eq_ok.1 hv
  exact (Schema.isApi_iff.1 hapi).rule_of_mem

end

/-- Reading undoes writing, whatever the indent: a model whose types are within the limit of
wrappers is written and read back, and only such a model is written.  So no text stores two
models, and a model that was read from any text is written and read back again. -/
theorem read_undoes_write (indent : Option Nat) :
    (∀ api : Api, api.Admissible →
      (∀ m ∈ api.members, m.type.depth ≤ TypeDescriptor.depthLimit) →
        ∃ text, write indent api = .ok text ∧ read text = .ok api) ∧
    (∀ api : Api, (∃ m ∈ api.members, TypeDescriptor.depthLimit < m.type.depth) →
      write indent api = .error .typeTooDeep) ∧
    (∀ (api other : Api) (text : String), api.Admissible → other.Admissible →
      write indent api = .ok text → write indent other = .ok text → api = other) ∧
    ∀ (text : String) (api : Api), read text = .ok api →
      ∃ again, write indent api = .ok again ∧ read again = .ok api := by
  have hwritten : ∀ (api : Api) (text : String), api.Admissible → write indent api = .ok text →
      read text = .ok api := by
    intro api text ha hw
    obtain ⟨hd, rfl⟩ := write_eq_ok.1 hw
    exact read_written fun m hm => ⟨admissible_iff.1 ha m hm, hd m hm⟩
  refine ⟨?_, ?_, ?_, ?_⟩
  · intro api ha hd
    have hw : write indent api = .ok _ := write_eq_ok.2 ⟨hd, rfl⟩
    exact ⟨_, hw, hwritten api _ ha hw⟩
  · rintro api ⟨m, hm, hd⟩
    exact write_eq_error hm hd
  · intro api other text ha ho hw hw'
    have hr := hwritten api text ha hw
    rw [hwritten other text ho hw'] at hr
    exact (Except.ok.inj hr).symm
  · intro text api hr
    have hs := storable_of_readWithin hr
    exact ⟨_, write_eq_ok.2 ⟨fun m hm => (hs m hm).2, rfl⟩, read_written hs⟩

/-- A model with quotes, a control character, a character outside the basic plane and a wrapped
type comes back from its text. -/
theorem read_undoes_write_sample :
    ∃ text, write (some 2) ⟨[⟨"\"\\", [⟨"\x01\u2028😀", .optional (.array (.reference "é"))⟩]⟩],
        [⟨"", []⟩]⟩ = .ok text ∧
      read text = .ok ⟨[⟨"\"\\", [⟨"\x01\u2028😀", .optional (.array (.reference "é"))⟩]⟩],
        [⟨"", []⟩]⟩ :=
  (read_undoes_write (some 2)).1 _ (admissible_iff.2 (by decide)) (by decide)

/-! ### Types of too many wrappers -/

/-- An integer in so many arrays. -/
def nestedArrays : Nat → TypeDescriptor
  | 0 => .integer
  | n + 1 => .array (nestedArrays n)

theorem depth_nestedArrays (n : Nat) : (nestedArrays n).depth = n := by
  induction n with
  | zero => rfl
  | succ n ih => rw [nestedArrays, TypeDescriptor.depth, ih]

theorem admissible_nestedArrays (n : Nat) : (nestedArrays n).Admissible := by
  induction n with
  | zero => rfl
  | succ n ih =>
    rw [nestedArrays, TypeDescriptor.Admissible, TypeDescriptor.isAdmissible, Bool.and_eq_true]
    refine ⟨?_, ih⟩
    cases n <;> rfl

/-- A model with a type of three hundred wrappers, which a document can hold, is not written, and
so it is not read back either. -/
theorem not_written_of_nested_arrays :
    (⟨[⟨"A", [⟨"a", nestedArrays 300⟩]⟩], []⟩ : Api).Admissible ∧
      ∀ indent, ¬ ∃ text, write indent ⟨[⟨"A", [⟨"a", nestedArrays 300⟩]⟩], []⟩ = .ok text ∧
        read text = .ok ⟨[⟨"A", [⟨"a", nestedArrays 300⟩]⟩], []⟩ := by
  refine ⟨admissible_iff.2 ?_, ?_⟩
  · intro m hm
    obtain rfl := List.mem_singleton.1 hm
    exact admissible_nestedArrays 300
  · rintro indent ⟨text, hw, -⟩
    -- the depth is rewritten first: the type itself is too large to decide about
    have hd := (write_eq_ok.1 hw).1 ⟨"a", nestedArrays 300⟩ (List.mem_singleton.2 rfl)
    rw [depth_nestedArrays] at hd
    exact absurd hd (by decide)

end ApiScribe.Artifact
