import Mathlib.Data.List.Forall2
import ApiScribe.Generation.Resolve
import ApiScribe.Outcome

/-!
# What the views of a model are

A renderer that remembers nothing answers by name and data alone.  For such a renderer the outcome
of a run is that of its steps, one after the other (`Run.result_andThen`), and the computation of
the views can be said without an order of steps: `Written` is the text of a type, `Renamed` the
name that stands for an identifier, `DtoSeen` and `MethodSeen` are the views of an entity.

Main statement: `views_eq_ok` — the views are computed exactly when every entity has a view, and
then they are these.
-/

namespace ApiScribe

/-! ### Outcomes of runs -/

namespace Run

variable {α β : Type}

/-- The outcome of a run with a renderer that remembers nothing. -/
def result (x : Run Unit α) : Except ResolveError α := (x ()).outcome

@[simp] theorem result_done (a : α) : (done a : Run Unit α).result = .ok a := rfl

/-- The outcome of two steps is that of the second after the first. -/
theorem result_andThen (x : Run Unit α) (f : α → Run Unit β) :
    (x.andThen f).result = x.result.bind fun a => (f a).result := by
  unfold result andThen
  cases h : x () with
  | mk calls outcome memory => cases outcome <;> rfl

theorem result_andThen_eq_ok {x : Run Unit α} {f : α → Run Unit β} {b : β} :
    (x.andThen f).result = .ok b ↔ ∃ a, x.result = .ok a ∧ (f a).result = .ok b := by
  rw [result_andThen]
  exact Outcome.bind_eq_ok

/-- A step for each item succeeds with one value an item. -/
theorem result_each_eq_ok {f : α → Run Unit β} {as : List α} {bs : List β} :
    (each f as).result = .ok bs ↔ List.Forall₂ (fun a b => (f a).result = .ok b) as bs := by
  induction as generalizing bs with
  | nil =>
    rw [each, result_done, List.forall₂_nil_left_iff]
    exact ⟨fun h => (Except.ok.inj h).symm, fun h => h ▸ rfl⟩
  | cons a as ih =>
    rw [each, result_andThen_eq_ok, List.forall₂_cons_left_iff]
    constructor
    · rintro ⟨b, hb, h⟩
      obtain ⟨rest, hr, h⟩ := result_andThen_eq_ok.1 h
      exact ⟨b, rest, hb, ih.1 hr, (Except.ok.inj h).symm⟩
    · rintro ⟨b, rest, hb, hr, rfl⟩
      exact ⟨b, hb, result_andThen_eq_ok.2 ⟨rest, ih.2 hr, rfl⟩⟩

end Run

/-! ### Answers -/

/-- What a renderer answers for a name and data. -/
abbrev Answers := String → Data → Except ResolveError Rendered

namespace Answers

/-- The template of a name has a text for the data. -/
def Gives (answer : Answers) (name : String) (data : Data) (s : String) : Prop :=
  ∃ rendered, answer name data = .ok rendered ∧ rendered.text = s

/-- Rendering leaves the data as they are. -/
def KeepsData (answer : Answers) : Prop :=
  ∀ name data rendered, answer name data = .ok rendered → rendered.data = data

/-- A template has no two texts for the same data. -/
theorem Gives.unique {answer : Answers} {name : String} {data : Data} {s s' : String}
    (h : answer.Gives name data s) (h' : answer.Gives name data s') : s = s' := by
  obtain ⟨r, hr, rfl⟩ := h
  obtain ⟨r', hr', rfl⟩ := h'
  rw [hr] at hr'
  cases hr'
  rfl

end Answers

/-! ### Texts of types and names -/

section
variable (c : Configuration) (has : String → Bool) (answer : Answers)

/-- The text of a type: that of the innermost type, put into one wrapper after the other. -/
inductive Written : TypeDescriptor → String → Prop
  | integer : Written .integer c.integerType
  | string : Written .string c.stringType
  | boolean : Written .boolean c.booleanType
  | reference (name : String) : Written (.reference name) name
  | array {element : TypeDescriptor} {inner s : String} (h : Written element inner)
      (hs : answer.Gives Renderer.arrayName (.record [("value", .text inner)]) s) :
      Written (.array element) s
  | optional {element : TypeDescriptor} {inner s : String} (h : Written element inner)
      (hs : answer.Gives Renderer.optionalName (.record [("value", .text inner)]) s) :
      Written (.optional element) s

/-- The name that stands for an identifier: its replacement for the names of its owner if there is
one, otherwise the identifier itself. -/
def Renamed (identifier : String) (owner : Names) (s : String) : Prop :=
  if has (Renderer.renameName identifier) then
    answer.Gives (Renderer.renameName identifier) owner.toData s
  else s = identifier

/-- What is seen of a field or parameter. -/
structure MemberSeen (owner : Names) (m : Member) (v : MemberView) : Prop where
  name : Renamed has answer m.name owner v.name
  type : Written c answer m.type v.type
  givenName : v.givenName = m.name
  optional : v.optional = m.type.isOptional
  reference : v.reference = m.type.referencedName?.map Names.of

/-- What is seen of a DTO. -/
structure DtoSeen (dto : Dto) (v : DtoView) : Prop where
  name : ∃ s, Renamed has answer dto.name (Names.of dto.name) s ∧ v.name = Names.of s
  fields : List.Forall₂ (MemberSeen c has answer (Names.of dto.name)) dto.fields v.fields
  usedDtoNames : v.usedDtoNames = ApiScribe.usedDtoNames dto.name dto.fields

/-- What is seen of a method. -/
structure MethodSeen (method : Method) (v : MethodView) : Prop where
  name : ∃ s, Renamed has answer method.name (Names.of method.name) s ∧ v.name = Names.of s
  parameters :
    List.Forall₂ (MemberSeen c has answer (Names.of method.name)) method.parameters v.parameters
  usedDtoNames : v.usedDtoNames = ApiScribe.usedDtoNames method.name method.parameters

/-- What is seen of a model: a view of each entity, in the order of the model. -/
def Seen (api : Api) (views : Resolver.Views) : Prop :=
  ∃ dtos methods, List.Forall₂ (DtoSeen c has answer) api.dtos dtos ∧
    List.Forall₂ (MethodSeen c has answer) api.methods methods ∧
    views = ⟨dtos.map DtoView.toData, methods.map MethodView.toData⟩

end

/-! ### Views are computed as they are seen -/

namespace Resolver

section
variable {c : Configuration} {has : String → Bool} {answer : Answers}

/-- The resolver of a configuration with a renderer that remembers nothing. -/
abbrev ofAnswers (c : Configuration) (has : String → Bool) (answer : Answers) : Resolver Unit :=
  ⟨c, .ofAnswers has answer⟩

theorem result_run (name : String) (data : Data) :
    ((Renderer.ofAnswers has answer).run name data).result = answer name data := rfl

theorem textOf_eq_ok {name : String} {data : Data} {s : String} :
    ((ofAnswers c has answer).textOf name data).result = .ok s ↔ answer.Gives name data s := by
  rw [textOf, Run.result_andThen_eq_ok, result_run]
  refine exists_congr fun rendered => and_congr_right fun _ => ?_
  rw [Run.result_done, Except.ok.injEq]

theorem typeText_eq_ok {t : TypeDescriptor} {s : String} :
    ((ofAnswers c has answer).typeText t).result = .ok s ↔ Written c answer t s := by
  constructor
  · intro h
    induction t generalizing s with
    | integer => cases h; exact .integer
    | string => cases h; exact .string
    | boolean => cases h; exact .boolean
    | reference name => cases h; exact .reference name
    | array element ih =>
      obtain ⟨inner, hi, hs⟩ := Run.result_andThen_eq_ok.1 h
      exact .array (ih hi) (textOf_eq_ok.1 hs)
    | optional element ih =>
      obtain ⟨inner, hi, hs⟩ := Run.result_andThen_eq_ok.1 h
      exact .optional (ih hi) (textOf_eq_ok.1 hs)
  · intro h
    induction h with
    | integer | string | boolean | reference => rfl
    | array h hs ih => exact Run.result_andThen_eq_ok.2 ⟨_, ih, textOf_eq_ok.2 hs⟩
    | optional h hs ih => exact Run.result_andThen_eq_ok.2 ⟨_, ih, textOf_eq_ok.2 hs⟩

theorem rename_eq_ok {identifier s : String} {owner : Names} :
    ((ofAnswers c has answer).rename identifier owner).result = .ok s ↔
      Renamed has answer identifier owner s := by
  have hask : ((Renderer.ofAnswers has answer).ask (Renderer.renameName identifier)).result =
      .ok (has (Renderer.renameName identifier)) := rfl
  show (Run.andThen _ _).result = _ ↔ _
  rw [Run.result_andThen, hask, Renamed]
  -- the answer to the question decides which of the two ends the run has
  show (ite _ _ _ : Run Unit String).result = _ ↔ _
  split
  · exact textOf_eq_ok
  · exact ⟨fun h => (Except.ok.inj h).symm, fun h => h ▸ rfl⟩

theorem memberView_eq_ok {owner : Names} {m : Member} {v : MemberView} :
    ((ofAnswers c has answer).memberView owner m).result = .ok v ↔
      MemberSeen c has answer owner m v := by
  show (Run.andThen _ _).result = _ ↔ _
  rw [Run.result_andThen_eq_ok]
  constructor
  · rintro ⟨name, hn, h⟩
    obtain ⟨type, ht, h⟩ := Run.result_andThen_eq_ok.1 h
    cases h
    exact ⟨rename_eq_ok.1 hn, typeText_eq_ok.1 ht, rfl, rfl, rfl⟩
  · intro h
    refine ⟨v.name, rename_eq_ok.2 h.name, ?_⟩
    refine Run.result_andThen_eq_ok.2 ⟨v.type, typeText_eq_ok.2 h.type, ?_⟩
    -- the other parts of a view need no rendering
    show Except.ok _ = Except.ok v
    rw [← h.givenName, ← h.optional, ← h.reference]

theorem memberViews_eq_ok {owner : Names} {ms : List Member} {vs : List MemberView} :
    (Run.each ((ofAnswers c has answer).memberView owner) ms).result = .ok vs ↔
      List.Forall₂ (MemberSeen c has answer owner) ms vs := by
  rw [Run.result_each_eq_ok]
  simp only [memberView_eq_ok]

theorem dtoView_eq_ok {dto : Dto} {v : DtoView} :
    ((ofAnswers c has answer).dtoView dto).result = .ok v ↔ DtoSeen c has answer dto v := by
  show (Run.andThen _ _).result = _ ↔ _
  rw [Run.result_andThen_eq_ok]
  constructor
  · rintro ⟨name, hn, h⟩
    obtain ⟨fields, hf, h⟩ := Run.result_andThen_eq_ok.1 h
    cases h
    exact ⟨⟨name, rename_eq_ok.1 hn, rfl⟩, memberViews_eq_ok.1 hf, rfl⟩
  · intro h
    obtain ⟨name, hn, hv⟩ := h.name
    refine ⟨name, rename_eq_ok.2 hn, ?_⟩
    refine Run.result_andThen_eq_ok.2 ⟨v.fields, memberViews_eq_ok.2 h.fields, ?_⟩
    show Except.ok _ = Except.ok v
    rw [← hv, ← h.usedDtoNames]

theorem methodView_eq_ok {method : Method} {v : MethodView} :
    ((ofAnswers c has answer).methodView method).result = .ok v ↔
      MethodSeen c has answer method v := by
  show (Run.andThen _ _).result = _ ↔ _
  rw [Run.result_andThen_eq_ok]
  constructor
  · rintro ⟨name, hn, h⟩
    obtain ⟨parameters, hp, h⟩ := Run.result_andThen_eq_ok.1 h
    cases h
    exact ⟨⟨name, rename_eq_ok.1 hn, rfl⟩, memberViews_eq_ok.1 hp, rfl⟩
  · intro h
    obtain ⟨name, hn, hv⟩ := h.name
    refine ⟨name, rename_eq_ok.2 hn, ?_⟩
    refine Run.result_andThen_eq_ok.2 ⟨v.parameters, memberViews_eq_ok.2 h.parameters, ?_⟩
    show Except.ok _ = Except.ok v
    rw [← hv, ← h.usedDtoNames]

/-- The views are computed exactly when every entity has one. -/
theorem views_eq_ok {api : Api} {views : Views} :
    ((ofAnswers c has answer).views api).result = .ok views ↔ Seen c has answer api views := by
  show (Run.andThen _ _).result = _ ↔ _
  rw [Run.result_andThen_eq_ok]
  constructor
  · rintro ⟨dtos, hd, h⟩
    obtain ⟨methods, hm, h⟩ := Run.result_andThen_eq_ok.1 h
    cases h
    rw [Run.result_each_eq_ok] at hd hm
    exact ⟨dtos, methods, hd.imp fun _ _ => dtoView_eq_ok.1,
      hm.imp fun _ _ => methodView_eq_ok.1, rfl⟩
  · rintro ⟨dtos, methods, hd, hm, rfl⟩
    refine ⟨dtos, Run.result_each_eq_ok.2 (hd.imp fun _ _ => dtoView_eq_ok.2), ?_⟩
    refine Run.result_andThen_eq_ok.2 ⟨methods, ?_, rfl⟩
    exact Run.result_each_eq_ok.2 (hm.imp fun _ _ => methodView_eq_ok.2)

end
end Resolver
end ApiScribe
