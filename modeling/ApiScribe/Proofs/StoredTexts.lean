import ApiScribe.Proofs.Json.Grammar
import ApiScribe.Proofs.StoredModel

/-!
# The texts that store a model

`Stores` says which texts store which model, by the grammar of JSON and the shape of a model and
without the reader.  The reader accepts the texts that store a model of types within the limit of
wrappers (`readWithin_eq_ok_iff_stores`).  Any other text is rejected, unless the reader comes to
an integer that is too long, or to a bracket that is nested too deep, before it knows
(`read_text_outcome`).

All is said for every number of levels that the interpreter leaves to brackets.  A name with a lone
surrogate is no text, and here it counts as one in which that is replaced: which texts are accepted
does not depend on it, but the model that is read is described only where there is none.
-/

namespace ApiScribe.Artifact

open Json (IsJson IsObject Spaces ComesToLong ComesTooDeep last?)

variable {rule rule' : TypeDescriptor → Prop} {levels : Nat} {text : String} {api api' : Api}

/-- The text is JSON, with brackets nested at most so many levels deep, for an object whose last `v`
is the version of the format and whose last `api` has the shape of the model, with types that keep
the rule.  An `api` that is missing is empty. -/
def Stores (levels : Nat) (rule : TypeDescriptor → Prop) (text : String) (api : Api) : Prop :=
  ∃ ms, IsObject text.toList levels ms ∧ last? "v" ms = some (.string version) ∧
    Schema.IsApi rule ((last? "api" ms).getD (.object [])).toDatum api

/-- Of the members of the text, the ones that count are those of the value that it is JSON for. -/
theorem stores_iff : Stores levels rule text api ↔ ∃ v, IsJson levels text.toList v ∧
    (∃ members, v = .object members) ∧ v.member? "v" = some (.string version) ∧
      Schema.IsApi rule ((v.member? "api").getD (.object [])).toDatum api := by
  constructor
  · rintro ⟨ms, hms, hv, hapi⟩
    rw [← Json.member?_ofMembers] at hv hapi
    exact ⟨_, hms.isJson, ⟨_, rfl⟩, hv, hapi⟩
  · rintro ⟨_, hjson, ⟨members, rfl⟩, hv, hapi⟩
    obtain ⟨ms, hms, heq⟩ := Json.exists_isObject_of_isJson hjson
    rw [← heq, Json.member?_ofMembers] at hv hapi
    exact ⟨ms, hms, hv, hapi⟩

/-- A text stores one model at most, whatever its types are held to. -/
theorem Stores.unique (h : Stores levels rule text api) (h' : Stores levels rule' text api') :
    api = api' := by
  obtain ⟨v, hv, -, -, hapi⟩ := stores_iff.1 h
  obtain ⟨v', hv', -, -, hapi'⟩ := stores_iff.1 h'
  obtain rfl := hv.unique hv'
  exact hapi.unique hapi'

theorem Stores.rule_of_mem (h : Stores levels rule text api) :
    ∀ m ∈ api.members, rule m.type := by
  obtain ⟨_, -, -, hapi⟩ := h
  exact hapi.rule_of_mem

/-- The reader accepts the texts that store a model. -/
theorem readWithin_eq_ok_iff_stores :
    readWithin levels text = .ok api ↔ Stores levels Schema.Accepts text api := by
  simp only [readWithin_eq_ok, stores_iff, ofJson_eq_ok, Json.readWithin_eq_ok, Schema.isApi_iff]

theorem isJson_written (indent : Option Nat) (h : ∀ m ∈ api.members, m.type.depth < levels) :
    IsJson (levels + 6) (Json.text indent (ofVersioned (ofApi api)))
      (ofVersioned (ofApi api)) :=
  Json.readWithin_eq_ok.1 (Json.readWithin_text indent (textual_ofVersioned h))

/-- The text that is written for a model stores it. -/
theorem stores_written (indent : Option Nat) (hdepth : ∀ m ∈ api.members, m.type.depth < levels)
    (h : ∀ m ∈ api.members, rule m.type) :
    Stores (levels + 6) rule (String.ofList (Json.text indent (ofVersioned (ofApi api)))) api := by
  refine stores_iff.2 ⟨ofVersioned (ofApi api), ?_, ⟨_, rfl⟩, rfl, isApi_ofApi h⟩
  rw [String.toList_ofList]
  exact isJson_written indent hdepth

/-- The text of a model holds no lone surrogate. -/
theorem paired_written (indent : Option Nat) (h : ∀ m ∈ api.members, m.type.depth < levels)
    {v : Json} (hv : IsJson (levels + 6)
      (String.ofList (Json.text indent (ofVersioned (ofApi api)))).toList v) : v.Paired := by
  rw [String.toList_ofList] at hv
  obtain rfl := (isJson_written indent h).unique hv
  exact (textual_ofVersioned h).paired

/-- A text is read or rejected, unless it is JSON up to an integer that is too long or to a bracket
for which no level is left. -/
theorem readWithin_ends (levels : Nat) (text : String) :
    (∃ api, readWithin levels text = .ok api) ∨
      (∃ e, readWithin levels text = .error (.rejected e)) ∨
      (∃ digits s, readWithin levels text = .error (.interrupted (.integerTooLong digits)) ∧
        Spaces text.toList s ∧ ComesToLong levels s .value digits) ∨
      ∃ container s, readWithin levels text = .error (.interrupted (.nestedTooDeep container)) ∧
        Spaces text.toList s ∧ ComesTooDeep levels s .value container := by
  unfold readWithin
  split
  · exact .inr (.inl ⟨_, rfl⟩)
  · next digits hread =>
    obtain ⟨s, hs, hlong⟩ := Json.comesToLong_of_readWithin hread
    exact .inr (.inr (.inl ⟨digits, s, rfl, hs, hlong⟩))
  · next container hread =>
    obtain ⟨s, hs, hdeep⟩ := Json.comesTooDeep_of_readWithin hread
    exact .inr (.inr (.inr ⟨container, s, rfl, hs, hdeep⟩))
  · split
    · exact .inl ⟨_, rfl⟩
    · exact .inr (.inl ⟨_, rfl⟩)

/-- A text is accepted exactly if it stores a model whose types are among those that the schema
accepts, and without lone surrogates it is read as the model that it stores.  Any other text is
rejected, unless it is JSON up to an integer that is too long or to a bracket that is nested too
deep. -/
theorem read_text_outcome (levels : Nat) (text : String) :
    ((∃ api, readWithin levels text = .ok api) ↔ ∃ api, Stores levels Schema.Accepts text api) ∧
      ((∀ v, IsJson levels text.toList v → v.Paired) →
        ∀ api, readWithin levels text = .ok api ↔ Stores levels Schema.Accepts text api) ∧
      ((∃ api, readWithin levels text = .ok api) ∨
        (∃ e, readWithin levels text = .error (.rejected e)) ∨
        (∃ digits s, readWithin levels text = .error (.interrupted (.integerTooLong digits)) ∧
          Spaces text.toList s ∧ ComesToLong levels s .value digits) ∨
        ∃ container s, readWithin levels text = .error (.interrupted (.nestedTooDeep container)) ∧
          Spaces text.toList s ∧ ComesTooDeep levels s .value container) :=
  ⟨exists_congr fun _ => readWithin_eq_ok_iff_stores, fun _ _ => readWithin_eq_ok_iff_stores,
    readWithin_ends levels text⟩

/-- A model of a type with two wrappers is read from its text with nine levels of brackets. -/
theorem read_text_outcome_sample :
    (∀ v, IsJson 9 (String.ofList (Json.text none (ofVersioned (ofApi
      ⟨[⟨"\"A", [⟨"é", .optional (.array (.reference "😀"))⟩]⟩], []⟩)))).toList v → v.Paired) ∧
      readWithin 9 (String.ofList (Json.text none (ofVersioned (ofApi
        ⟨[⟨"\"A", [⟨"é", .optional (.array (.reference "😀"))⟩]⟩], []⟩)))) =
        .ok ⟨[⟨"\"A", [⟨"é", .optional (.array (.reference "😀"))⟩]⟩], []⟩ := by
  have hdepth : ∀ m ∈ (⟨[⟨"\"A", [⟨"é", .optional (.array (.reference "😀"))⟩]⟩], []⟩ :
      Api).members, m.type.depth < 3 := by decide
  have haccepts : ∀ m ∈ (⟨[⟨"\"A", [⟨"é", .optional (.array (.reference "😀"))⟩]⟩], []⟩ :
      Api).members, Schema.Accepts m.type :=
    List.forall_mem_singleton.2 ⟨by decide, by decide⟩
  exact ⟨fun v hv => paired_written none hdepth hv,
    ((read_text_outcome 9 _).2.1 (fun v hv => paired_written none hdepth hv) _).2
      (stores_written none hdepth haccepts)⟩

/-- A text that stores a model with a type of three hundred wrappers is not accepted, although the
rule for optionals is kept and a run reads brackets that are nested as deep. -/
theorem not_read_of_nested_arrays :
    Stores Json.nestingLimit TypeDescriptor.Admissible
        (String.ofList (Json.text none (ofVersioned (ofApi
          ⟨[⟨"A", [⟨"a", nestedArrays 300⟩]⟩], []⟩))))
        ⟨[⟨"A", [⟨"a", nestedArrays 300⟩]⟩], []⟩ ∧
      ∀ api, read (String.ofList (Json.text none (ofVersioned (ofApi
        ⟨[⟨"A", [⟨"a", nestedArrays 300⟩]⟩], []⟩)))) ≠ .ok api := by
  have hstores : Stores (982 + 6) TypeDescriptor.Admissible
      (String.ofList (Json.text none (ofVersioned (ofApi
        ⟨[⟨"A", [⟨"a", nestedArrays 300⟩]⟩], []⟩))))
      ⟨[⟨"A", [⟨"a", nestedArrays 300⟩]⟩], []⟩ := by
    apply stores_written
    · intro m hm
      obtain rfl := List.mem_singleton.1 hm
      rw [depth_nestedArrays]
      decide
    · intro m hm
      obtain rfl := List.mem_singleton.1 hm
      exact admissible_nestedArrays 300
  refine ⟨hstores, ?_⟩
  intro api hread
  have haccepted := readWithin_eq_ok_iff_stores.1 hread
  -- The model that is read could only be the one that the text stores.
  obtain rfl := hstores.unique haccepted
  have hdepth := (haccepted.rule_of_mem ⟨"a", nestedArrays 300⟩ (List.mem_singleton.2 rfl)).2
  rw [depth_nestedArrays] at hdepth
  exact absurd hdepth (by decide)

end ApiScribe.Artifact
