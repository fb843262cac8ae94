import ApiScribe.Proofs.Traversal
import ApiScribe.Schema.Model

/-!
# What the schema of a model accepts

Each check of a datum gets one lemma that says exactly when it gives a value, and with which
parts: `list_eq_ok`, `required_eq_ok`, …, `api_eq_ok`.  From them follows what comes from outside:

* `Describes.sound` — an accepted type has an optional at most outermost, and no more wrappers
  than were allowed; of the types that data spell, exactly these are accepted (`describes_iff`);
* `isApi_iff` — the data of a model are accepted if they have its shape and all of its types are
  accepted.
-/

namespace ApiScribe.Schema

/-! ### Outcomes of checks -/

namespace Checked

variable {α β : Type}

@[simp] theorem fail_eq_ok {problem : Problem} {a : α} : fail problem = .ok a ↔ False := by
  simp [fail]

@[simp] theorem under_eq_ok {step : Step} {c : Checked α} {a : α} :
    c.under step = .ok a ↔ c = .ok a := by
  cases c <;> simp [under]

@[simp] theorem both_eq_ok {c : Checked α} {d : Checked β} {p : α × β} :
    c.both d = .ok p ↔ c = .ok p.1 ∧ d = .ok p.2 := by
  obtain ⟨a, b⟩ := p
  cases c <;> cases d <;> simp [both]

/-- All values are there exactly when none of the checks failed. -/
theorem all_eq_ok {cs : List (Checked α)} {as : List α} :
    all cs = .ok as ↔ cs = as.map Except.ok := by
  induction cs generalizing as with
  | nil =>
    rw [all]
    constructor
    · intro h
      cases h
      rfl
    · intro h
      cases as with
      | nil => rfl
      | cons a as => cases h
  | cons c cs ih =>
    rw [all, Outcome.map_eq_ok]
    constructor
    · rintro ⟨⟨b, bs⟩, hb, rfl⟩
      obtain ⟨hc, hcs⟩ := both_eq_ok.1 hb
      rw [List.map_cons, hc, ih.1 hcs]
    · intro h
      cases as with
      | nil => cases h
      | cons a as =>
        rw [List.map_cons, List.cons.injEq] at h
        exact ⟨(a, as), both_eq_ok.2 ⟨h.1, ih.2 h.2⟩, rfl⟩

end Checked

variable {α : Type} {d : Datum} {members : List (Datum.Key × Datum)} {name : String}

/-- The places of the items do not count for success. -/
theorem map_under_index_eq {item : Datum → Checked α} {items : List Datum} {as : List α}
    (start : Nat) : ((items.zipIdx start).map fun (d, i) => (item d).under (.index i)) =
      as.map Except.ok ↔ items.map item = as.map Except.ok := by
  induction items generalizing as start with
  | nil => rfl
  | cons d items ih =>
    cases as with
    | nil => simp
    | cons a as =>
      rw [List.zipIdx_cons]
      simp only [List.map_cons, List.cons.injEq, Checked.under_eq_ok]
      exact and_congr_right fun _ => ih (start + 1)

theorem list_eq_ok {item : Datum → Checked α} {as : List α} :
    list item d = .ok as ↔ ∃ items, d = .list items ∧ items.map item = as.map Except.ok := by
  cases d with
  | list items =>
    rw [list, Checked.all_eq_ok]
    constructor
    · intro h
      exact ⟨items, rfl, (map_under_index_eq 0).1 h⟩
    · rintro ⟨_, hi, h⟩
      cases hi
      exact (map_under_index_eq 0).2 h
  | _ => simp [list]

theorem text_eq_ok {s : String} : text d = .ok s ↔ d = .text s := by
  cases d <;> simp [text]

theorem record_eq_ok {check : List (Datum.Key × Datum) → Checked α} {a : α} :
    record check d = .ok a ↔ ∃ members, d = .record members ∧ check members = .ok a := by
  cases d <;> simp [record]

theorem required_eq_ok {check : Datum → Checked α} {a : α} :
    required name check members = .ok a ↔
      ∃ d, Datum.member? name members = some d ∧ check d = .ok a := by
  unfold required
  split
  · next d hd => simp [hd]
  · next hd => simp [hd]

/-- A list that is missing is empty. -/
theorem listOrEmpty_eq_ok {item : Datum → Checked α} {as : List α} :
    listOrEmpty name item members = .ok as ↔
      (Datum.member? name members = none ∧ as = []) ∨
        ∃ d, Datum.member? name members = some d ∧ list item d = .ok as := by
  unfold listOrEmpty
  split
  · next d hd => simp [hd]
  · next hd => simp [hd, eq_comm]

/-! ### Types -/

section
variable {cost left : Nat}

theorem typeAt_eq_ok {t : TypeDescriptor} :
    typeAt cost left name members = .ok t ↔
      ∃ d, Datum.member? name members = some d ∧ typeWithin cost left d = .ok t := by
  induction members with
  | nil => simp [typeAt, Datum.member?]
  | cons m members ih =>
    obtain ⟨key, d⟩ := m
    rw [typeAt]
    split
    · next h =>
      subst h
      simp [Datum.member?]
    · next h =>
      have hk : (Datum.Key.text name == key) = false := by simpa using fun he => h he.symm
      rw [ih]
      simp [Datum.member?, List.lookup_cons, hk]

/-- A wrapper is accepted with what it wraps, unless that is an optional. -/
theorem wrapped_eq_ok {problem : Problem} {wrap : TypeDescriptor → TypeDescriptor}
    {t : TypeDescriptor} :
    (match typeAt cost left name members with
      | .error findings => (.error findings : Checked TypeDescriptor)
      | .ok inner => if inner.isOptional then Checked.fail problem else .ok (wrap inner)) = .ok t ↔
      ∃ d inner, Datum.member? name members = some d ∧ typeWithin cost left d = .ok inner ∧
        inner.isOptional = false ∧ t = wrap inner := by
  have hinner : (∃ d inner, Datum.member? name members = some d ∧
      typeWithin cost left d = .ok inner ∧ inner.isOptional = false ∧ t = wrap inner) ↔
      ∃ inner, typeAt cost left name members = .ok inner ∧ inner.isOptional = false ∧
        t = wrap inner := by
    simp only [typeAt_eq_ok]
    constructor
    · rintro ⟨d, inner, hd, hi, ho⟩
      exact ⟨inner, ⟨d, hd, hi⟩, ho⟩
    · rintro ⟨inner, ⟨d, hd, hi⟩, ho⟩
      exact ⟨d, inner, hd, hi, ho⟩
  rw [hinner]
  cases typeAt cost left name members with
  | error findings => simp
  | ok inner => cases ho : inner.isOptional <;> simp [ho, eq_comm (a := t)]

theorem innermost_eq_ok {kind : String} {check : Checked TypeDescriptor} {t : TypeDescriptor} :
    innermost cost left kind check = .ok t ↔ cost ≤ left ∧ check = .ok t := by
  unfold innermost
  rw [Checked.under_eq_ok]
  split
  · next h => simp [Nat.not_le.2 h]
  · next h => simp [Nat.not_lt.1 h]

/-- The datum describes a type that the guard lets through: its `kind` says which of its other
members count, and neither the element of an array nor the inside of an optional is optional. -/
inductive Describes (cost : Nat) : Nat → Datum → TypeDescriptor → Prop
  | integer {left : Nat} {members : _} (hc : cost ≤ left)
      (hk : Datum.member? "kind" members = some (.text "integer")) :
      Describes cost left (.record members) .integer
  | string {left : Nat} {members : _} (hc : cost ≤ left)
      (hk : Datum.member? "kind" members = some (.text "string")) :
      Describes cost left (.record members) .string
  | boolean {left : Nat} {members : _} (hc : cost ≤ left)
      (hk : Datum.member? "kind" members = some (.text "boolean")) :
      Describes cost left (.record members) .boolean
  | reference {left : Nat} {members name : _} (hc : cost ≤ left)
      (hk : Datum.member? "kind" members = some (.text "reference"))
      (hn : Datum.member? "name" members = some (.text name)) :
      Describes cost left (.record members) (.reference name)
  | array {left : Nat} {members d element : _}
      (hk : Datum.member? "kind" members = some (.text "array"))
      (hm : Datum.member? "element_type" members = some d) (h : Describes cost left d element)
      (ho : element.isOptional = false) :
      Describes cost (left + 1) (.record members) (.array element)
  | optional {left : Nat} {members d inner : _}
      (hk : Datum.member? "kind" members = some (.text "optional"))
      (hm : Datum.member? "inner_type" members = some d) (h : Describes cost left d inner)
      (ho : inner.isOptional = false) :
      Describes cost (left + 1) (.record members) (.optional inner)

theorem typeWithin_of_describes {t : TypeDescriptor} (h : Describes cost left d t) :
    typeWithin cost left d = .ok t := by
  induction h with
  | integer hc hk | string hc hk | boolean hc hk =>
    rw [typeWithin.eq_def]
    dsimp only
    rw [hk]
    exact innermost_eq_ok.2 ⟨hc, rfl⟩
  | reference hc hk hn =>
    rw [typeWithin.eq_def]
    dsimp only
    rw [hk]
    refine innermost_eq_ok.2 ⟨hc, ?_⟩
    rw [Outcome.map_eq_ok]
    exact ⟨_, required_eq_ok.2 ⟨_, hn, rfl⟩, rfl⟩
  | array hk hm h ho ih =>
    rw [typeWithin.eq_def]
    dsimp only
    rw [hk]
    exact Checked.under_eq_ok.2 (wrapped_eq_ok.2 ⟨_, _, hm, ih, ho, rfl⟩)
  | optional hk hm h ho ih =>
    rw [typeWithin.eq_def]
    dsimp only
    rw [hk]
    exact Checked.under_eq_ok.2 (wrapped_eq_ok.2 ⟨_, _, hm, ih, ho, rfl⟩)

theorem describes_of_typeWithin {t : TypeDescriptor} (h : typeWithin cost left d = .ok t) :
    Describes cost left d t := by
  induction left using Nat.strongRecOn generalizing d t with
  | ind left ih =>
    rw [typeWithin.eq_def] at h
    split at h
    · next members =>
      split at h
      · cases h
      · next hk =>
        obtain ⟨hc, ht⟩ := innermost_eq_ok.1 h
        cases ht
        exact .integer hc hk
      · next hk =>
        obtain ⟨hc, ht⟩ := innermost_eq_ok.1 h
        cases ht
        exact .string hc hk
      · next hk =>
        obtain ⟨hc, ht⟩ := innermost_eq_ok.1 h
        cases ht
        exact .boolean hc hk
      · next hk =>
        obtain ⟨hc, hr⟩ := innermost_eq_ok.1 h
        obtain ⟨name, hn, rfl⟩ := Outcome.map_eq_ok.1 hr
        obtain ⟨e, he, ht⟩ := required_eq_ok.1 hn
        exact .reference hc hk (text_eq_ok.1 ht ▸ he)
      · next hk =>
        cases left with
        | zero => simp at h
        | succ left =>
          obtain ⟨e, element, hm, he, ho, rfl⟩ := wrapped_eq_ok.1 (Checked.under_eq_ok.1 h)
          exact .array hk hm (ih left (Nat.lt_succ_self left) he) ho
      · next hk =>
        cases left with
        | zero => simp at h
        | succ left =>
          obtain ⟨e, inner, hm, he, ho, rfl⟩ := wrapped_eq_ok.1 (Checked.under_eq_ok.1 h)
          exact .optional hk hm (ih left (Nat.lt_succ_self left) he) ho
      · simp at h
    · simp at h

/-- The types that the schema accepts are those that the datum describes. -/
theorem typeWithin_eq_ok {t : TypeDescriptor} :
    typeWithin cost left d = .ok t ↔ Describes cost left d t :=
  ⟨describes_of_typeWithin, typeWithin_of_describes⟩

/-- A type that a datum describes has an optional at most outermost, and no more wrappers than
the guard lets through. -/
theorem Describes.sound {t : TypeDescriptor} (h : Describes cost left d t) :
    t.Admissible ∧ t.depth + cost ≤ left := by
  induction h with
  | integer hc | string hc | boolean hc | reference hc =>
    exact ⟨rfl, by simpa [TypeDescriptor.depth] using hc⟩
  | array hk hm h ho ih =>
    refine ⟨TypeDescriptor.admissible_array.2 ⟨ih.1, ho⟩, ?_⟩
    rw [TypeDescriptor.depth, Nat.add_right_comm]
    exact Nat.succ_le_succ ih.2
  | optional hk hm h ho ih =>
    refine ⟨TypeDescriptor.admissible_optional.2 ⟨ih.1, ho⟩, ?_⟩
    rw [TypeDescriptor.depth, Nat.add_right_comm]
    exact Nat.succ_le_succ ih.2

/-- The datum spells the type: each part of it has a known `kind` and the members of that kind. -/
inductive Spells : Datum → TypeDescriptor → Prop
  | integer {members : _} (hk : Datum.member? "kind" members = some (.text "integer")) :
      Spells (.record members) .integer
  | string {members : _} (hk : Datum.member? "kind" members = some (.text "string")) :
      Spells (.record members) .string
  | boolean {members : _} (hk : Datum.member? "kind" members = some (.text "boolean")) :
      Spells (.record members) .boolean
  | reference {members name : _} (hk : Datum.member? "kind" members = some (.text "reference"))
      (hn : Datum.member? "name" members = some (.text name)) :
      Spells (.record members) (.reference name)
  | array {members d element : _} (hk : Datum.member? "kind" members = some (.text "array"))
      (hm : Datum.member? "element_type" members = some d) (h : Spells d element) :
      Spells (.record members) (.array element)
  | optional {members d inner : _} (hk : Datum.member? "kind" members = some (.text "optional"))
      (hm : Datum.member? "inner_type" members = some d) (h : Spells d inner) :
      Spells (.record members) (.optional inner)

/-- What is accepted is what is spelled, if it keeps the rule and the guard lets it through. -/
theorem describes_iff {t : TypeDescriptor} :
    Describes cost left d t ↔ Spells d t ∧ t.Admissible ∧ t.depth + cost ≤ left := by
  constructor
  · intro h
    refine ⟨?_, h.sound⟩
    induction h with
    | integer _ hk => exact .integer hk
    | string _ hk => exact .string hk
    | boolean _ hk => exact .boolean hk
    | reference _ hk hn => exact .reference hk hn
    | array hk hm _ _ ih => exact .array hk hm ih
    | optional hk hm _ _ ih => exact .optional hk hm ih
  · rintro ⟨hs, ha, hd⟩
    induction hs generalizing left with
    | integer hk => exact .integer (by simpa [TypeDescriptor.depth] using hd) hk
    | string hk => exact .string (by simpa [TypeDescriptor.depth] using hd) hk
    | boolean hk => exact .boolean (by simpa [TypeDescriptor.depth] using hd) hk
    | reference hk hn => exact .reference (by simpa [TypeDescriptor.depth] using hd) hk hn
    | array hk hm _ ih =>
      obtain ⟨ha, ho⟩ := TypeDescriptor.admissible_array.1 ha
      rw [TypeDescriptor.depth, Nat.add_right_comm] at hd
      cases left with
      | zero => exact absurd hd (Nat.not_succ_le_zero _)
      | succ left => exact .array hk hm (ih ha (Nat.le_of_succ_le_succ hd)) ho
    | optional hk hm _ ih =>
      obtain ⟨ha, ho⟩ := TypeDescriptor.admissible_optional.1 ha
      rw [TypeDescriptor.depth, Nat.add_right_comm] at hd
      cases left with
      | zero => exact absurd hd (Nat.not_succ_le_zero _)
      | succ left => exact .optional hk hm (ih ha (Nat.le_of_succ_le_succ hd)) ho

end

/-- A datum spells one type at most, since its `kind` decides between them. -/
theorem Spells.unique {d : Datum} {t other : TypeDescriptor} (h : Spells d t)
    (h' : Spells d other) : t = other := by
  induction h generalizing other with
  | integer hk =>
    cases h' with
    | integer => rfl
    | string hk' | boolean hk' | reference hk' | array hk' | optional hk' => simp [hk] at hk'
  | string hk =>
    cases h' with
    | string => rfl
    | integer hk' | boolean hk' | reference hk' | array hk' | optional hk' => simp [hk] at hk'
  | boolean hk =>
    cases h' with
    | boolean => rfl
    | integer hk' | string hk' | reference hk' | array hk' | optional hk' => simp [hk] at hk'
  | reference hk hn =>
    cases h' with
    | reference _ hn' =>
      cases hn.symm.trans hn'
      rfl
    | integer hk' | string hk' | boolean hk' | array hk' | optional hk' => simp [hk] at hk'
  | array hk hm _ ih =>
    cases h' with
    | array _ hm' h' =>
      cases hm.symm.trans hm'
      rw [ih h']
    | integer hk' | string hk' | boolean hk' | reference hk' | optional hk' => simp [hk] at hk'
  | optional hk hm _ ih =>
    cases h' with
    | optional _ hm' h' =>
      cases hm.symm.trans hm'
      rw [ih h']
    | integer hk' | string hk' | boolean hk' | reference hk' | array hk' => simp [hk] at hk'

/-! ### Entities -/

theorem member_eq_ok {m : Member} : member d = .ok m ↔
    ∃ members, d = .record members ∧ Datum.member? "name" members = some (.text m.name) ∧
      ∃ e, Datum.member? "type" members = some e ∧
        Describes 0 TypeDescriptor.depthLimit e m.type := by
  unfold member
  rw [record_eq_ok]
  refine exists_congr fun members => and_congr_right fun _ => ?_
  rw [Outcome.map_eq_ok]
  constructor
  · rintro ⟨⟨name, type⟩, h, rfl⟩
    obtain ⟨hn, ht⟩ := Checked.both_eq_ok.1 h
    obtain ⟨e, he, hs⟩ := required_eq_ok.1 hn
    obtain ⟨e', he', ht⟩ := typeAt_eq_ok.1 ht
    exact ⟨text_eq_ok.1 hs ▸ he, e', he', typeWithin_eq_ok.1 ht⟩
  · rintro ⟨hn, e, he, ht⟩
    refine ⟨(m.name, m.type), Checked.both_eq_ok.2 ⟨?_, ?_⟩, rfl⟩
    · exact required_eq_ok.2 ⟨_, hn, rfl⟩
    · exact typeAt_eq_ok.2 ⟨e, he, typeWithin_eq_ok.2 ht⟩

/-- A record with a name and a list, which is empty when it is missing. -/
theorem named_list_eq_ok {β : Type} {key : String} {item : Datum → Checked α}
    {make : String → List α → β} {b : β} :
    record (fun members => ((required "name" text members).both
      (listOrEmpty key item members)).map fun (name, as) => make name as) d = .ok b ↔
      ∃ members name as, d = .record members ∧
        Datum.member? "name" members = some (.text name) ∧
        listOrEmpty key item members = .ok as ∧ make name as = b := by
  rw [record_eq_ok]
  constructor
  · rintro ⟨members, rfl, h⟩
    obtain ⟨⟨name, as⟩, hb, rfl⟩ := Outcome.map_eq_ok.1 h
    obtain ⟨hn, ha⟩ := Checked.both_eq_ok.1 hb
    obtain ⟨e, he, hs⟩ := required_eq_ok.1 hn
    exact ⟨members, name, as, rfl, text_eq_ok.1 hs ▸ he, ha, rfl⟩
  · rintro ⟨members, name, as, rfl, hn, ha, rfl⟩
    refine ⟨members, rfl, Outcome.map_eq_ok.2 ⟨(name, as), Checked.both_eq_ok.2 ⟨?_, ha⟩, rfl⟩⟩
    exact required_eq_ok.2 ⟨_, hn, rfl⟩

theorem dto_eq_ok {dto : Dto} : Schema.dto d = .ok dto ↔
    ∃ members, d = .record members ∧ Datum.member? "name" members = some (.text dto.name) ∧
      listOrEmpty "fields" member members = .ok dto.fields := by
  refine named_list_eq_ok.trans ?_
  constructor
  · rintro ⟨members, name, fields, rfl, hn, hf, rfl⟩
    exact ⟨members, rfl, hn, hf⟩
  · rintro ⟨members, rfl, hn, hf⟩
    exact ⟨members, dto.name, dto.fields, rfl, hn, hf, rfl⟩

theorem method_eq_ok {method : Method} : Schema.method d = .ok method ↔
    ∃ members, d = .record members ∧ Datum.member? "name" members = some (.text method.name) ∧
      listOrEmpty "parameters" member members = .ok method.parameters := by
  refine named_list_eq_ok.trans ?_
  constructor
  · rintro ⟨members, name, parameters, rfl, hn, hp, rfl⟩
    exact ⟨members, rfl, hn, hp⟩
  · rintro ⟨members, rfl, hn, hp⟩
    exact ⟨members, method.name, method.parameters, rfl, hn, hp, rfl⟩

theorem api_eq_ok {api : Api} : Schema.api d = .ok api ↔
    ∃ members, d = .record members ∧ listOrEmpty "dtos" dto members = .ok api.dtos ∧
      listOrEmpty "methods" method members = .ok api.methods := by
  unfold Schema.api
  rw [record_eq_ok]
  refine exists_congr fun members => and_congr_right fun _ => ?_
  rw [Outcome.map_eq_ok]
  constructor
  · rintro ⟨⟨dtos, methods⟩, h, rfl⟩
    exact Checked.both_eq_ok.1 h
  · intro h
    exact ⟨(api.dtos, api.methods), Checked.both_eq_ok.2 h, rfl⟩

/-! ### The shape of a model -/

/-- A record has a list of such items under a key; where the key is missing there are none. -/
def HoldsList (item : Datum → α → Prop) (key : String) (members : List (Datum.Key × Datum))
    (as : List α) : Prop :=
  (Datum.member? key members = none ∧ as = []) ∨
    ∃ items, Datum.member? key members = some (.list items) ∧ List.Forall₂ item items as

/-- The datum is a record with a name and such a list. -/
def IsEntity (item : Datum → Member → Prop) (key : String) (d : Datum) (name : String)
    (ms : List Member) : Prop :=
  ∃ members, d = .record members ∧ Datum.member? "name" members = some (.text name) ∧
    HoldsList item key members ms

section
variable (rule : TypeDescriptor → Prop)

/-- The datum is a record with a name and with a type that keeps the rule. -/
def IsMember (d : Datum) (m : Member) : Prop :=
  ∃ members, d = .record members ∧ Datum.member? "name" members = some (.text m.name) ∧
    ∃ e, Datum.member? "type" members = some e ∧ Spells e m.type ∧ rule m.type

/-- The datum is a record of a DTO. -/
def IsDto (d : Datum) (dto : Dto) : Prop :=
  IsEntity (IsMember rule) "fields" d dto.name dto.fields

/-- The datum is a record of a method. -/
def IsMethod (d : Datum) (method : Method) : Prop :=
  IsEntity (IsMember rule) "parameters" d method.name method.parameters

/-- The datum is a record of DTOs and methods, each with a name and with members whose types keep
the rule.  A list that is missing is empty, and any other key is ignored. -/
def IsApi (d : Datum) (api : Api) : Prop :=
  ∃ members, d = .record members ∧ HoldsList (IsDto rule) "dtos" members api.dtos ∧
    HoldsList (IsMethod rule) "methods" members api.methods

end

/-- The types that the schema accepts, of all that can be spelled. -/
def Accepts (t : TypeDescriptor) : Prop := t.Admissible ∧ t.depth ≤ TypeDescriptor.depthLimit

/-- A type on its own is accepted as the one that it spells, with as many wrappers as in a model. -/
theorem type_eq_ok {t : TypeDescriptor} : Schema.type d = .ok t ↔ Spells d t ∧ Accepts t := by
  unfold Schema.type
  rw [typeWithin_eq_ok, describes_iff, Nat.add_le_add_iff_right]
  exact Iff.rfl

theorem holdsList_iff {item : Datum → Checked α} {is : Datum → α → Prop} {as : List α}
    (h : ∀ d a, item d = .ok a ↔ is d a) :
    listOrEmpty name item members = .ok as ↔ HoldsList is name members as := by
  have hitems : ∀ items : List Datum, items.map item = as.map Except.ok ↔
      List.Forall₂ is items as := by
    intro items
    rw [← List.forall₂_eq_eq_eq, List.forall₂_map_left_iff, List.forall₂_map_right_iff]
    simp only [h]
  rw [listOrEmpty_eq_ok]
  refine or_congr_right ?_
  constructor
  · rintro ⟨d, hd, hl⟩
    obtain ⟨items, rfl, hi⟩ := list_eq_ok.1 hl
    exact ⟨items, hd, (hitems items).1 hi⟩
  · rintro ⟨items, hd, hi⟩
    exact ⟨_, hd, list_eq_ok.2 ⟨items, rfl, (hitems items).2 hi⟩⟩

theorem isMember_iff (d : Datum) (m : Member) : member d = .ok m ↔ IsMember Accepts d m := by
  rw [member_eq_ok]
  simp only [describes_iff]
  exact Iff.rfl

theorem isDto_iff (d : Datum) (dto : Dto) : Schema.dto d = .ok dto ↔ IsDto Accepts d dto := by
  rw [dto_eq_ok]
  simp only [holdsList_iff isMember_iff]
  exact Iff.rfl

theorem isMethod_iff (d : Datum) (method : Method) :
    Schema.method d = .ok method ↔ IsMethod Accepts d method := by
  rw [method_eq_ok]
  simp only [holdsList_iff isMember_iff]
  exact Iff.rfl

/-- The schema accepts the data that have the shape of a model. -/
theorem isApi_iff {api : Api} : Schema.api d = .ok api ↔ IsApi Accepts d api := by
  rw [api_eq_ok]
  simp only [holdsList_iff isDto_iff, holdsList_iff isMethod_iff]
  exact Iff.rfl

theorem HoldsList.exists_of_mem {item : Datum → α → Prop} {as : List α} {a : α}
    (h : HoldsList item name members as) (ha : a ∈ as) : ∃ d, item d a := by
  rcases h with ⟨-, rfl⟩ | ⟨items, -, hitems⟩
  · cases ha
  · obtain ⟨d, -, hd⟩ := exists_of_mem_forall₂ hitems ha
    exact ⟨d, hd⟩

/-- All types of a model keep the rule. -/
theorem IsApi.rule_of_mem {rule : TypeDescriptor → Prop} {api : Api} (h : IsApi rule d api) :
    ∀ m ∈ api.members, rule m.type := by
  have hmember : ∀ {d m}, IsMember rule d m → rule m.type := fun ⟨_, _, _, _, _, _, hm⟩ => hm
  obtain ⟨_, -, hdtos, hmethods⟩ := h
  intro m hm
  rcases List.mem_append.1 hm with hm | hm
  · obtain ⟨dto, hdto, hm⟩ := List.mem_flatMap.1 hm
    obtain ⟨_, _, -, -, hfields⟩ := hdtos.exists_of_mem hdto
    obtain ⟨_, hm⟩ := hfields.exists_of_mem hm
    exact hmember hm
  · obtain ⟨method, hmethod, hm⟩ := List.mem_flatMap.1 hm
    obtain ⟨_, _, -, -, hparameters⟩ := hmethods.exists_of_mem hmethod
    obtain ⟨_, hm⟩ := hparameters.exists_of_mem hm
    exact hmember hm

section
variable {rule rule' : TypeDescriptor → Prop}

theorem HoldsList.unique {item item' : Datum → α → Prop} {as as' : List α}
    (h : HoldsList item name members as) (h' : HoldsList item' name members as')
    (hitem : ∀ d a a', item d a → item' d a' → a = a') : as = as' := by
  -- the key is missing for both or for neither
  rcases h with ⟨hnone, rfl⟩ | ⟨items, hsome, hitems⟩
  · rcases h' with ⟨-, rfl⟩ | ⟨items', hsome', -⟩
    · rfl
    · rw [hnone] at hsome'
      cases hsome'
  · rcases h' with ⟨hnone', -⟩ | ⟨items', hsome', hitems'⟩
    · rw [hnone'] at hsome
      cases hsome
    · rw [hsome] at hsome'
      cases hsome'
      clear hsome
      induction hitems generalizing as' with
      | nil =>
        cases hitems'
        rfl
      | cons ha _ ih =>
        cases hitems' with
        | cons ha' has' => rw [hitem _ _ _ ha ha', ih has']

theorem IsMember.unique {d : Datum} {m m' : Member} (h : IsMember rule d m)
    (h' : IsMember rule' d m') : m = m' := by
  obtain ⟨members, rfl, hname, e, he, ht, -⟩ := h
  obtain ⟨_, hd, hname', e', he', ht', -⟩ := h'
  cases hd
  rw [he] at he'
  cases he'
  rw [hname] at hname'
  cases m with
  | mk name type =>
    cases m' with
    | mk name' type' =>
      cases hname'
      cases ht.unique ht'
      rfl

theorem IsEntity.unique {d : Datum} {key name name' : String} {ms ms' : List Member}
    (h : IsEntity (IsMember rule) key d name ms) (h' : IsEntity (IsMember rule') key d name' ms') :
    name = name' ∧ ms = ms' := by
  obtain ⟨members, rfl, hname, hms⟩ := h
  obtain ⟨_, hd, hname', hms'⟩ := h'
  cases hd
  rw [hname] at hname'
  cases hname'
  exact ⟨rfl, hms.unique hms' fun _ _ _ => IsMember.unique⟩

/-- Data have the shape of one model at most, whatever its types are held to. -/
theorem IsApi.unique {d : Datum} {api api' : Api} (h : IsApi rule d api)
    (h' : IsApi rule' d api') : api = api' := by
  obtain ⟨members, rfl, hdtos, hmethods⟩ := h
  obtain ⟨_, hd, hdtos', hmethods'⟩ := h'
  cases hd
  have hdto : api.dtos = api'.dtos := by
    refine hdtos.unique hdtos' ?_
    rintro d ⟨name, fields⟩ ⟨name', fields'⟩ hd hd'
    obtain ⟨rfl, rfl⟩ := IsEntity.unique hd hd'
    rfl
  have hmethod : api.methods = api'.methods := by
    refine hmethods.unique hmethods' ?_
    rintro d ⟨name, parameters⟩ ⟨name', parameters'⟩ hd hd'
    obtain ⟨rfl, rfl⟩ := IsEntity.unique hd hd'
    rfl
  cases api
  cases api'
  cases hdto
  cases hmethod
  rfl

end

end ApiScribe.Schema
