import Mathlib.Data.List.Forall2
import ApiScribe.Generation.Resolve
import ApiScribe.Proofs.Consistency
import ApiScribe.Proofs.Traversal

/-!
# What views refer to

A view refers to DTOs by the references of its members and by the names it uses.  Both are the names
that the document has, while a DTO is called by its replacement if it has one (`Called`).  So among
the views of a model without unknown references every reference names a DTO of the model, but a view
is found under that name only if some DTO is called so; one is, as long as the DTO meant has no
replacement.

Main statement: `Resolver.views_refer_by_document`, for every renderer, with a memory or without.
-/

namespace ApiScribe

/-! ### Runs that succeed -/

namespace Run

variable {μ α β : Type}

/-- With some memory of the renderer the run succeeds with the value. -/
def CanGive (x : Run μ α) (a : α) : Prop := ∃ memory, (x memory).outcome = .ok a

theorem CanGive.of_done {a b : α} (h : CanGive (done a : Run μ α) b) : b = a := by
  obtain ⟨memory, h⟩ := h
  cases h
  rfl

/-- Both steps of a run that succeeds do, the second one with the memory that the first one
leaves. -/
theorem CanGive.of_andThen {x : Run μ α} {f : α → Run μ β} {b : β} (h : CanGive (x.andThen f) b) :
    ∃ a, CanGive x a ∧ CanGive (f a) b := by
  obtain ⟨memory, h⟩ := h
  unfold andThen at h
  cases hx : x memory with
  | mk calls outcome after =>
    rw [hx] at h
    cases outcome with
    | error e => cases h
    | ok a => exact ⟨a, ⟨memory, by rw [hx]⟩, after, h⟩

theorem CanGive.of_each {f : α → Run μ β} {as : List α} {bs : List β}
    (h : CanGive (each f as) bs) : List.Forall₂ (fun a b => CanGive (f a) b) as bs := by
  induction as generalizing bs with
  | nil =>
    obtain rfl := h.of_done
    exact .nil
  | cons a as ih =>
    obtain ⟨b, hb, h⟩ := h.of_andThen
    obtain ⟨rest, hrest, h⟩ := h.of_andThen
    obtain rfl := h.of_done
    exact .cons hb (ih hrest)

end Run

/-! ### Names that views use -/

theorem mem_sortedNames {names : List String} {name : String} :
    name ∈ sortedNames names ↔ name ∈ names := by
  unfold sortedNames
  rw [List.mem_mergeSort, List.mem_eraseDups]

/-- An entity uses what its members refer to, other than itself. -/
theorem mem_usedDtoNames {owner : String} {members : List Member} {names : Names} :
    names ∈ usedDtoNames owner members ↔
      ∃ m ∈ members, ∃ name, m.type.Refers name ∧ name ≠ owner ∧ names = Names.of name := by
  unfold usedDtoNames
  simp only [List.mem_map, mem_sortedNames, List.mem_filter, List.mem_filterMap,
    TypeDescriptor.referencedName?_eq_some]
  constructor
  · rintro ⟨name, ⟨⟨m, hm, hrefers⟩, hne⟩, rfl⟩
    exact ⟨m, hm, name, hrefers, by simpa using hne, rfl⟩
  · rintro ⟨m, hm, name, hrefers, hne, rfl⟩
    exact ⟨name, ⟨⟨m, hm, hrefers⟩, by simpa using hne⟩, rfl⟩

/-- The members or the used names of an entity's view have the names. -/
inductive ViewRefers (members : List MemberView) (used : List Names) (names : Names) : Prop
  | reference {m : MemberView} (hm : m ∈ members) (h : m.reference = some names)
  | used (h : names ∈ used)

/-- A view has the names in a reference or among those it uses. -/
inductive ReferredTo (dtos : List DtoView) (methods : List MethodView) (names : Names) : Prop
  | dto {v : DtoView} (hv : v ∈ dtos) (h : ViewRefers v.fields v.usedDtoNames names)
  | method {v : MethodView} (hv : v ∈ methods) (h : ViewRefers v.parameters v.usedDtoNames names)

namespace Resolver

variable {μ : Type} {r : Resolver μ}

/-- What an entity is called in the views: its replacement if it has one, otherwise as in the
document. -/
def Called (r : Resolver μ) (name s : String) : Prop :=
  if r.renderer.has (Renderer.renameName name) then
    Run.CanGive (r.textOf (Renderer.renameName name) (Names.of name).toData) s
  else s = name

theorem called_of_rename {name s : String} (h : (r.rename name (Names.of name)).CanGive s) :
    r.Called name s := by
  obtain ⟨known, hknown, h⟩ := Run.CanGive.of_andThen h
  obtain ⟨memory, hask⟩ := hknown
  -- the answer to the question does not depend on the memory
  obtain rfl : r.renderer.has (Renderer.renameName name) = known := Except.ok.inj hask
  unfold Called
  split at h
  · next hhas =>
    rw [if_pos hhas]
    exact h
  · next hhas =>
    rw [if_neg hhas]
    exact h.of_done

/-- The view of a member refers to what the member's type does. -/
theorem reference_of_memberView {owner : Names} {m : Member} {v : MemberView}
    (h : (r.memberView owner m).CanGive v) :
    v.reference = m.type.referencedName?.map Names.of := by
  obtain ⟨name, -, h⟩ := Run.CanGive.of_andThen h
  obtain ⟨type, -, h⟩ := Run.CanGive.of_andThen h
  obtain rfl := h.of_done
  rfl

/-- The views of members refer to what the members' types do. -/
theorem exists_reference_iff {owner : Names} {members : List Member} {views : List MemberView}
    {names : Names}
    (h : List.Forall₂ (fun m v => (r.memberView owner m).CanGive v) members views) :
    (∃ v ∈ views, v.reference = some names) ↔
      ∃ m ∈ members, ∃ name, m.type.Refers name ∧ names = Names.of name := by
  refine exists_mem_forall₂_iff h ?_
  intro m v hm
  rw [reference_of_memberView hm, Option.map_eq_some_iff]
  exact exists_congr fun name => and_congr TypeDescriptor.referencedName?_eq_some eq_comm

/-- The members refer to what their types do; what the entity uses is among it. -/
theorem viewRefers_iff {owner : Names} {entity : String} {members : List Member}
    {views : List MemberView} {names : Names}
    (h : List.Forall₂ (fun m v => (r.memberView owner m).CanGive v) members views) :
    ViewRefers views (usedDtoNames entity members) names ↔
      ∃ m ∈ members, ∃ name, m.type.Refers name ∧ names = Names.of name := by
  rw [← exists_reference_iff h]
  constructor
  · intro hrefers
    cases hrefers with
    | reference hv h => exact ⟨_, hv, h⟩
    | used hused =>
      obtain ⟨m, hm, name, hrefers, -, rfl⟩ := mem_usedDtoNames.1 hused
      exact (exists_reference_iff h).2 ⟨m, hm, name, hrefers, rfl⟩
  · rintro ⟨v, hv, h⟩
    exact .reference hv h

/-- What the view of a DTO is made of. -/
theorem of_dtoView {dto : Dto} {v : DtoView} (h : (r.dtoView dto).CanGive v) :
    (∃ s, r.Called dto.name s ∧ v.name = Names.of s) ∧
      List.Forall₂ (fun m w => (r.memberView (Names.of dto.name) m).CanGive w) dto.fields v.fields ∧
      v.usedDtoNames = usedDtoNames dto.name dto.fields := by
  obtain ⟨name, hname, h⟩ := Run.CanGive.of_andThen h
  obtain ⟨fields, hfields, h⟩ := Run.CanGive.of_andThen h
  obtain rfl := h.of_done
  exact ⟨⟨name, called_of_rename hname, rfl⟩, hfields.of_each, rfl⟩

/-- What the view of a method is made of. -/
theorem of_methodView {method : Method} {v : MethodView} (h : (r.methodView method).CanGive v) :
    (∃ s, r.Called method.name s ∧ v.name = Names.of s) ∧
      List.Forall₂ (fun m w => (r.memberView (Names.of method.name) m).CanGive w)
        method.parameters v.parameters ∧
      v.usedDtoNames = usedDtoNames method.name method.parameters := by
  obtain ⟨name, hname, h⟩ := Run.CanGive.of_andThen h
  obtain ⟨parameters, hparameters, h⟩ := Run.CanGive.of_andThen h
  obtain rfl := h.of_done
  exact ⟨⟨name, called_of_rename hname, rfl⟩, hparameters.of_each, rfl⟩

theorem dtoView_refers_iff {dto : Dto} {v : DtoView} {names : Names}
    (h : (r.dtoView dto).CanGive v) : ViewRefers v.fields v.usedDtoNames names ↔
      ∃ m ∈ dto.fields, ∃ name, m.type.Refers name ∧ names = Names.of name := by
  obtain ⟨-, hfields, hused⟩ := of_dtoView h
  rw [hused]
  exact viewRefers_iff hfields

theorem methodView_refers_iff {method : Method} {v : MethodView} {names : Names}
    (h : (r.methodView method).CanGive v) : ViewRefers v.parameters v.usedDtoNames names ↔
      ∃ m ∈ method.parameters, ∃ name, m.type.Refers name ∧ names = Names.of name := by
  obtain ⟨-, hparameters, hused⟩ := of_methodView h
  rw [hused]
  exact viewRefers_iff hparameters

theorem name_of_dtoView {dto : Dto} {v : DtoView} (h : (r.dtoView dto).CanGive v) :
    ∃ s, r.Called dto.name s ∧ v.name = Names.of s :=
  (of_dtoView h).1

theorem name_of_methodView {method : Method} {v : MethodView}
    (h : (r.methodView method).CanGive v) : ∃ s, r.Called method.name s ∧ v.name = Names.of s :=
  (of_methodView h).1

/-- The views of a model are those of its entities, in order. -/
theorem canGive_of_views {api : Api} {views : Views} (h : (r.views api).CanGive views) :
    ∃ dtos methods, views = ⟨dtos.map DtoView.toData, methods.map MethodView.toData⟩ ∧
      List.Forall₂ (fun dto v => (r.dtoView dto).CanGive v) api.dtos dtos ∧
      List.Forall₂ (fun method v => (r.methodView method).CanGive v) api.methods methods := by
  obtain ⟨dtos, hdtos, h⟩ := Run.CanGive.of_andThen h
  obtain ⟨methods, hmethods, h⟩ := Run.CanGive.of_andThen h
  exact ⟨dtos, methods, h.of_done, hdtos.of_each, hmethods.of_each⟩

/-- The views refer to what the types of the model refer to, whatever its DTOs are called. -/
theorem referredTo_iff {api : Api} {dtos : List DtoView} {methods : List MethodView} {names : Names}
    (hdtos : List.Forall₂ (fun dto v => (r.dtoView dto).CanGive v) api.dtos dtos)
    (hmethods : List.Forall₂ (fun method v => (r.methodView method).CanGive v) api.methods
      methods) :
    ReferredTo dtos methods names ↔
      ∃ m ∈ api.members, ∃ name, m.type.Refers name ∧ names = Names.of name := by
  have hindto : (∃ v ∈ dtos, ViewRefers v.fields v.usedDtoNames names) ↔ ∃ dto ∈ api.dtos,
      ∃ m ∈ dto.fields, ∃ name, m.type.Refers name ∧ names = Names.of name :=
    exists_mem_forall₂_iff hdtos fun _ _ h => dtoView_refers_iff h
  have hinmethod : (∃ v ∈ methods, ViewRefers v.parameters v.usedDtoNames names) ↔
      ∃ method ∈ api.methods,
        ∃ m ∈ method.parameters, ∃ name, m.type.Refers name ∧ names = Names.of name :=
    exists_mem_forall₂_iff hmethods fun _ _ h => methodView_refers_iff h
  constructor
  · intro h
    cases h with
    | dto hv h =>
      obtain ⟨dto, hdto, m, hm, hrefers⟩ := hindto.1 ⟨_, hv, h⟩
      exact ⟨m, Api.mem_members.2 (.inl ⟨dto, hdto, hm⟩), hrefers⟩
    | method hv h =>
      obtain ⟨method, hmethod, m, hm, hrefers⟩ := hinmethod.1 ⟨_, hv, h⟩
      exact ⟨m, Api.mem_members.2 (.inr ⟨method, hmethod, hm⟩), hrefers⟩
  · rintro ⟨m, hm, hrefers⟩
    rcases Api.mem_members.1 hm with ⟨dto, hdto, hm⟩ | ⟨method, hmethod, hm⟩
    · obtain ⟨v, hv, h⟩ := hindto.2 ⟨dto, hdto, m, hm, hrefers⟩
      exact .dto hv h
    · obtain ⟨v, hv, h⟩ := hinmethod.2 ⟨method, hmethod, m, hm, hrefers⟩
      exact .method hv h

/-- What views refer to, if the check of the model warns of no unknown reference.  They refer to
exactly the names that the types of the model refer to, as the document has them.  Each is the name
of a DTO of the model.  A view of that name exists if this DTO has no replacement, and only if some
DTO of the model is called so. -/
theorem views_refer_by_document {api : Api} {memory : μ} {views : Views}
    (hviews : (r.views api memory).outcome = .ok views)
    (hresolved : ∀ caution ∈ api.check.cautions, ∃ name, caution = .emptyDto name) :
    ∃ dtos methods, views = ⟨dtos.map DtoView.toData, methods.map MethodView.toData⟩ ∧
      List.Forall₂ (fun dto v => ∃ s, r.Called dto.name s ∧ v.name = Names.of s) api.dtos dtos ∧
      (∀ names, ReferredTo dtos methods names ↔
        ∃ m ∈ api.members, ∃ name, m.type.Refers name ∧ names = Names.of name) ∧
      ∀ names, ReferredTo dtos methods names → ∃ dto ∈ api.dtos, names = Names.of dto.name ∧
        (r.renderer.has (Renderer.renameName dto.name) = false → ∃ v ∈ dtos, v.name = names) ∧
        ((∃ v ∈ dtos, v.name = names) → ∃ other ∈ api.dtos, r.Called other.name dto.name) := by
  obtain ⟨dtos, methods, rfl, hdtos, hmethods⟩ := canGive_of_views ⟨memory, hviews⟩
  have hnamed := hdtos.imp fun _ _ h => name_of_dtoView h
  refine ⟨dtos, methods, rfl, hnamed, fun _ => referredTo_iff hdtos hmethods, ?_⟩
  intro names hrefers
  obtain ⟨m, hm, name, hname, rfl⟩ := (referredTo_iff hdtos hmethods).1 hrefers
  obtain ⟨dto, hdto, rfl⟩ := Api.exists_dto_of_refers hresolved hm hname
  refine ⟨dto, hdto, rfl, ?_, ?_⟩
  · intro hno
    obtain ⟨v, hv, s, hs, hvname⟩ := exists_of_mem_forall₂ hnamed.flip hdto
    have hsame : s = dto.name := by
      unfold Called at hs
      rwa [hno, if_neg Bool.false_ne_true] at hs
    exact ⟨v, hv, hsame ▸ hvname⟩
  · rintro ⟨v, hv, hvname⟩
    obtain ⟨other, hother, s, hs, hsname⟩ := exists_of_mem_forall₂ hnamed hv
    have hsame : s = dto.name := congrArg Names.given (hsname.symm.trans hvname)
    exact ⟨other, hother, hsame ▸ hs⟩

/-- A model of two DTOs of which one refers to the other. -/
def twoDtos : Api := ⟨[⟨"B", []⟩, ⟨"A", [⟨"b", .reference "B"⟩]⟩], []⟩

/-- A resolver with a replacement for `B`, and no other template. -/
def replacingB : Resolver Unit where
  configuration := ⟨"I", "S", "L", "A", "O", [], []⟩
  renderer := .ofAnswers (· == "B_rename") fun _ data => .ok ⟨"C", data⟩

/-- The DTO that is replaced is referred to by a name that no view has. -/
theorem views_refer_by_document_replaced :
    (∀ caution ∈ twoDtos.check.cautions, ∃ name, caution = .emptyDto name) ∧
    ∃ views dtos methods, (replacingB.views twoDtos ()).outcome = .ok views ∧
      views = ⟨dtos.map DtoView.toData, methods.map MethodView.toData⟩ ∧
      ReferredTo dtos methods (Names.of "B") ∧ ¬ ∃ v ∈ dtos, v.name = Names.of "B" := by
  have hcautions : twoDtos.check.cautions = [.emptyDto "B"] := by decide
  have hresolved : ∀ caution ∈ twoDtos.check.cautions, ∃ name, caution = .emptyDto name := by
    rw [hcautions]
    exact List.forall_mem_singleton.2 ⟨"B", rfl⟩
  have hviews : ∃ views, (replacingB.views twoDtos ()).outcome = .ok views := ⟨_, rfl⟩
  obtain ⟨views, hviews⟩ := hviews
  obtain ⟨dtos, methods, hmade, -, hreferred, hmeant⟩ :=
    views_refer_by_document hviews hresolved
  have hrefers : ReferredTo dtos methods (Names.of "B") :=
    (hreferred _).2 ⟨⟨"b", .reference "B"⟩, by decide, "B", .reference, rfl⟩
  refine ⟨hresolved, views, dtos, methods, hviews, hmade, hrefers, ?_⟩
  intro hfound
  obtain ⟨dto, -, hname, -, honly⟩ := hmeant _ hrefers
  obtain ⟨other, hother, hcalled⟩ := honly hfound
  have hdto : "B" = dto.name := congrArg Names.given hname
  rw [← hdto] at hcalled
  rcases List.mem_pair.1 hother with rfl | rfl
  · -- the replaced DTO is called by its replacement
    obtain ⟨memory, h⟩ := hcalled
    exact absurd (Except.ok.inj h) (by decide)
  · have hself : "B" = "A" := hcalled
    exact absurd hself (by decide)

end Resolver
end ApiScribe
