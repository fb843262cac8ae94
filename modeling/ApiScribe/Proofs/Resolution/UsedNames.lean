import Mathlib.Data.List.Sort
import Mathlib.Data.String.Basic
import ApiScribe.Proofs.Resolution.References

/-!
# Which names an entity uses

The used names of a view are a list in increasing order, each name once, of what the types of the
members refer to.  An entity leaves out its own name, also when it is a method, whose name may be
that of a DTO as well.  So the list of a method misses the DTO of its name, and nothing else
(`Resolver.methods_use_others`).
-/

namespace ApiScribe

/-! ### Increasing lists -/

theorem nodup_eraseDups (names : List String) : names.eraseDups.Nodup := by
  cases names with
  | nil => exact List.nodup_nil
  | cons name rest =>
    rw [List.eraseDups_cons, List.nodup_cons]
    constructor
    · simp [List.mem_eraseDups]
    · exact nodup_eraseDups (rest.filter fun other => !other == name)
termination_by names.length
decreasing_by exact Nat.lt_succ_of_le (List.length_filter_le _ _)

theorem increasing_sortedNames (names : List String) : (sortedNames names).Pairwise (· < ·) := by
  have hsorted : (sortedNames names).Pairwise (· ≤ ·) := List.sortedLE_mergeSort.pairwise
  have hnodup : (sortedNames names).Nodup :=
    (List.mergeSort_perm _ _).nodup_iff.2 (nodup_eraseDups names)
  exact hsorted.imp₂ (fun _ _ hle hne => lt_of_le_of_ne hle hne) hnodup

/-- The names that the members refer to, other than the owner's, in increasing order. -/
structure UsesExactly (owner : String) (members : List Member) (names : List String) : Prop where
  increasing : names.Pairwise (· < ·)
  mem_iff (name : String) : name ∈ names ↔ name ≠ owner ∧ ∃ m ∈ members, m.type.Refers name

namespace UsesExactly

variable {owner : String} {members others : List Member} {names names' : List String}

/-- The order leaves no choice. -/
theorem unique (h : UsesExactly owner members names) (h' : UsesExactly owner members names') :
    names = names' :=
  h.increasing.eq_of_mem_iff h'.increasing fun name =>
    (h.mem_iff name).trans (h'.mem_iff name).symm

/-- The list holds all that the members refer to, unless one of them refers to the owner's name. -/
theorem complete_iff (h : UsesExactly owner members names) :
    (∀ m ∈ members, ∀ name, m.type.Refers name → name ∈ names) ↔
      ∀ m ∈ members, ¬ m.type.Refers owner := by
  constructor
  · intro hall m hm hrefers
    have hne : owner ≠ owner := ((h.mem_iff owner).1 (hall m hm owner hrefers)).1
    exact hne rfl
  · intro hnone m hm name hrefers
    refine (h.mem_iff name).2 ⟨?_, m, hm, hrefers⟩
    rintro rfl
    exact hnone m hm hrefers

end UsesExactly

/-- The used names are those of one increasing list. -/
theorem exists_usesExactly (owner : String) (members : List Member) :
    ∃ names, usedDtoNames owner members = names.map Names.of ∧
      UsesExactly owner members names := by
  refine ⟨_, rfl, increasing_sortedNames _, fun name => ?_⟩
  rw [mem_sortedNames, List.mem_filter, List.mem_filterMap, bne_iff_ne, and_comm]
  simp only [TypeDescriptor.referencedName?_eq_some]

namespace Resolver

variable {μ : Type} {r : Resolver μ}

/-- The view of a method uses what its parameters refer to, other than the method's name. -/
theorem methodView_usesExactly {method : Method} {v : MethodView}
    (h : (r.methodView method).CanGive v) :
    ∃ names, v.usedDtoNames = names.map Names.of ∧
      UsesExactly method.name method.parameters names := by
  obtain ⟨-, -, hused⟩ := of_methodView h
  rw [hused]
  exact exists_usesExactly method.name method.parameters

/-- The views of the methods of a model.  Each uses, in increasing order and each once, the names
that its parameters refer to in any wrapper, except the method's own.  This is every name they
refer to exactly if none refers to a DTO of the method's name; a parameter that does has that
reference in its view all the same. -/
theorem methods_use_others {api : Api} {memory : μ} {views : Views}
    (hviews : (r.views api memory).outcome = .ok views) :
    ∃ methods : List MethodView, views.methods = methods.map MethodView.toData ∧
      List.Forall₂ (fun (method : Method) (v : MethodView) => ∃ names : List String,
        v.usedDtoNames = names.map Names.of ∧ names.Pairwise (· < ·) ∧
        (∀ name, name ∈ names ↔
          name ≠ method.name ∧ ∃ m ∈ method.parameters, m.type.Refers name) ∧
        ((∀ m ∈ method.parameters, ∀ name, m.type.Refers name → name ∈ names) ↔
          ∀ m ∈ method.parameters, ¬ m.type.Refers method.name) ∧
        ∀ name, (∃ p ∈ v.parameters, p.reference = some (Names.of name)) ↔
          ∃ m ∈ method.parameters, m.type.Refers name) api.methods methods := by
  obtain ⟨dtos, methods, rfl, -, hmethods⟩ := canGive_of_views ⟨memory, hviews⟩
  refine ⟨methods, rfl, hmethods.imp fun method v h => ?_⟩
  obtain ⟨names, hnames, huses⟩ := methodView_usesExactly h
  refine ⟨names, hnames, huses.increasing, huses.mem_iff, huses.complete_iff, fun name => ?_⟩
  obtain ⟨-, hparameters, -⟩ := of_methodView h
  refine exists_mem_forall₂_iff hparameters fun m p hm => ?_
  rw [reference_of_memberView hm, Option.map_eq_some_iff]
  constructor
  · rintro ⟨other, hother, hname⟩
    obtain rfl : other = name := congrArg Names.given hname
    exact TypeDescriptor.referencedName?_eq_some.1 hother
  · intro hrefers
    exact ⟨name, TypeDescriptor.referencedName?_eq_some.2 hrefers, rfl⟩

/-- A method that takes a DTO of its own name and, in a list, another one. -/
def closing : Api :=
  ⟨[⟨"Close", []⟩, ⟨"Account", []⟩],
    [⟨"Close", [⟨"close", .reference "Close"⟩, ⟨"accounts", .array (.reference "Account")⟩]⟩]⟩

/-- A resolver that renders every template to the same text. -/
def constant : Resolver Unit where
  configuration := ⟨"I", "S", "L", "A", "O", [], []⟩
  renderer := .ofAnswers (fun _ => false) fun _ data => .ok ⟨"T", data⟩

/-- The check of the model permits the shared name, and the method does not use the DTO. -/
theorem methods_use_others_shared :
    closing.check.defects = [] ∧
    ∃ views methods, (constant.views closing ()).outcome = .ok views ∧
      views.methods = methods.map MethodView.toData ∧
      List.Forall₂ (fun (method : Method) (v : MethodView) =>
        v.usedDtoNames = [Names.of "Account"] ∧
        ∃ p ∈ v.parameters, p.reference = some (Names.of method.name)) closing.methods methods := by
  have hviews : ∃ views, (constant.views closing ()).outcome = .ok views := ⟨_, rfl⟩
  obtain ⟨views, hviews⟩ := hviews
  obtain ⟨methods, hmade, h⟩ := methods_use_others hviews
  refine ⟨by decide, views, methods, hviews, hmade, ?_⟩
  obtain ⟨v, _, ⟨names, hnames, hincreasing, hmem, -, hreference⟩, hnil, rfl⟩ :=
    List.forall₂_cons_left_iff.1 h
  obtain rfl := List.forall₂_nil_left_iff.1 hnil
  refine .cons ⟨?_, (hreference _).2 ⟨_, List.mem_cons_self, .reference⟩⟩ .nil
  have huses : UsesExactly "Close" [⟨"close", .reference "Close"⟩,
      ⟨"accounts", .array (.reference "Account")⟩] ["Account"] := by
    refine ⟨List.pairwise_singleton _ _, fun name => ⟨?_, ?_⟩⟩
    · intro hname
      obtain rfl := List.mem_singleton.1 hname
      exact ⟨by decide, ⟨"accounts", _⟩, List.mem_pair.2 (.inr rfl), .array .reference⟩
    · rintro ⟨hne, m, hm, hrefers⟩
      rcases List.mem_pair.1 hm with rfl | rfl
      · cases hrefers
        exact absurd rfl hne
      · cases hrefers with
        | array hrefers =>
          cases hrefers
          exact List.mem_singleton_self _
  rw [hnames, UsesExactly.unique ⟨hincreasing, hmem⟩ huses]
  rfl

end Resolver
end ApiScribe
