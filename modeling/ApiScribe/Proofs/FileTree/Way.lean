import Mathlib.Data.List.Induction
import ApiScribe.FileTree.Operation
import ApiScribe.Proofs.FileTree.Entry

/-!
# Following a path

`Place.ofNames` is the place that names lead to by their look alone: a name leads down, two dots
lead up.  A path leads there in every tree in which the places it passes are directories
(`locate_eq_ok`); where one of them is missing it leads nowhere (`locate_eq_missing`).

Two paths need no tree to be compared: `Place.Visits` and `Place.Passes` are the places on the way
of some names, with and without the last one.
-/

namespace ApiScribe

/-! ### Where names lead -/

namespace Place

/-- The place of a name seen from a place. -/
def step (place : Place) (name : String) : Place :=
  if name = Path.up then place.dropLast else place ++ [name]

/-- The place that names lead to from the top. -/
def ofNames (names : List String) : Place := names.foldl step []

theorem ofNames_concat (names : List String) (name : String) :
    ofNames (names ++ [name]) = step (ofNames names) name := by
  rw [ofNames, List.foldl_append]
  rfl

/-- Names without two dots lead to the place of the same names. -/
theorem ofNames_append (names : List String) {below : List String} (h : Path.up ∉ below) :
    ofNames (names ++ below) = ofNames names ++ below := by
  induction below using List.reverseRecOn with
  | nil => rw [List.append_nil, List.append_nil]
  | append_singleton below name ih =>
    rw [List.mem_append, not_or, List.mem_singleton] at h
    have hne : name ≠ Path.up := fun he => h.2 he.symm
    rw [← List.append_assoc, ofNames_concat, ih h.1, step, if_neg hne, List.append_assoc]

/-- Names lead to a place on the way. -/
def Visits (names : List String) (place : Place) : Prop :=
  ∃ above, above <+: names ∧ ofNames above = place

/-- Names lead to a place before the last of them is followed. -/
def Passes (names : List String) (place : Place) : Prop :=
  ∃ above, above <+: names ∧ above ≠ names ∧ ofNames above = place

variable {names : List String} {name : String} {place : Place}

theorem passes_concat : Passes (names ++ [name]) place ↔ Visits names place := by
  constructor
  · rintro ⟨above, hp, hne, rfl⟩
    rcases List.prefix_concat_iff.1 hp with he | hp
    · exact absurd he hne
    · exact ⟨above, hp, rfl⟩
  · rintro ⟨above, hp, rfl⟩
    refine ⟨above, hp.trans (List.prefix_append _ _), ?_, rfl⟩
    rintro rfl
    have hl := hp.length_le
    rw [List.length_append, List.length_singleton] at hl
    omega

theorem passes_concat_of_passes (h : Passes names place) : Passes (names ++ [name]) place := by
  obtain ⟨above, hp, -, he⟩ := h
  exact passes_concat.2 ⟨above, hp, he⟩

/-- Before the last name is followed, the names lead to where those before it do. -/
theorem passes_concat_self : Passes (names ++ [name]) (ofNames names) :=
  passes_concat.2 ⟨names, List.prefix_refl _, rfl⟩

theorem visits_iff : Visits names place ↔ Passes names place ∨ place = ofNames names := by
  constructor
  · rintro ⟨above, hp, rfl⟩
    by_cases he : above = names
    · exact .inr (he ▸ rfl)
    · exact .inl ⟨above, hp, he, rfl⟩
  · rintro (⟨above, hp, -, rfl⟩ | rfl)
    · exact ⟨above, hp, rfl⟩
    · exact ⟨names, List.prefix_refl _, rfl⟩

theorem visits_concat :
    Visits (names ++ [name]) place ↔ Visits names place ∨ place = ofNames (names ++ [name]) := by
  rw [visits_iff, passes_concat]

/-- Further names that do not lead up visit the places below as well. -/
theorem visits_append {below : List String} (h : Path.up ∉ below) :
    Visits (names ++ below) place ↔
      Visits names place ∨ ∃ part, part <+: below ∧ place = ofNames names ++ part := by
  constructor
  · rintro ⟨above, hp, rfl⟩
    rcases List.prefix_or_prefix_of_prefix hp (List.prefix_append names below) with hn | hn
    · exact .inl ⟨above, hn, rfl⟩
    · obtain ⟨part, rfl⟩ := hn
      rw [List.prefix_append_right_inj] at hp
      exact .inr ⟨part, hp, ofNames_append names fun hup => h (hp.subset hup)⟩
  · rintro (⟨above, hp, rfl⟩ | ⟨part, hp, rfl⟩)
    · exact ⟨above, hp.trans (List.prefix_append _ _), rfl⟩
    · refine ⟨names ++ part, (List.prefix_append_right_inj _).2 hp, ?_⟩
      exact ofNames_append names fun hup => h (hp.subset hup)

theorem visits_nil : Visits [] place ↔ place = [] := by
  constructor
  · rintro ⟨above, hp, rfl⟩
    rw [List.prefix_nil.1 hp]
    rfl
  · rintro rfl
    exact ⟨[], List.prefix_refl _, rfl⟩

theorem not_passes_nil : ¬ Passes [] place := by
  rintro ⟨above, hp, hne, -⟩
  exact hne (List.prefix_nil.1 hp)

end Place

open Place (ofNames Visits Passes)

/-! ### Paths that the operating system takes -/

/-- The path has no null character and is not too long, nor is any of its names. -/
structure Path.Accepted (p : Path) : Prop where
  noNull : '\x00' ∉ p.text.toList
  size : p.text.utf8ByteSize < FileTree.pathLimit
  short : ∀ name ∈ p.names, name.utf8ByteSize ≤ FileTree.nameLimit

/-- The text of a path is that of the path above it, and more. -/
theorem Path.exists_text_append {above : List String} (hne : above ≠ []) (below : List String) :
    ∃ rest, (⟨0, above ++ below⟩ : Path).text = (⟨0, above⟩ : Path).text ++ rest := by
  have hne' : above ++ below ≠ [] := by
    intro h
    exact hne (List.append_eq_nil_iff.1 h).1
  unfold Path.text
  simp only [hne, hne', and_false, if_false, List.replicate_zero, String.ofList_nil,
    String.empty_append]
  by_cases hb : below = []
  · subst hb
    rw [List.append_nil]
    exact ⟨"", String.append_empty.symm⟩
  · rw [String.intercalate_append_of_ne_nil hne hb, String.append_assoc]
    exact ⟨_, rfl⟩

/-- Of an accepted path the part above is accepted as well. -/
theorem Path.Accepted.of_append {above below : List String}
    (h : Path.Accepted ⟨0, above ++ below⟩) : Path.Accepted ⟨0, above⟩ := by
  by_cases hne : above = []
  · subst hne
    exact ⟨by decide, by decide, by simp⟩
  · obtain ⟨rest, hr⟩ := Path.exists_text_append hne below
    have hnull := h.noNull
    have hsize := h.size
    rw [hr, String.toList_append, List.mem_append, not_or] at hnull
    rw [hr, String.utf8ByteSize_append] at hsize
    exact ⟨hnull.1, by omega, fun name hn => h.short name (List.mem_append_left _ hn)⟩

/-- A character that is no part of the separator is in a joined text exactly if it is in a part. -/
theorem mem_toList_intercalate {sep : String} {c : Char} (hc : c ∉ sep.toList)
    {names : List String} :
    c ∈ (sep.intercalate names).toList ↔ ∃ name ∈ names, c ∈ name.toList := by
  induction names with
  | nil => simp
  | cons name names ih =>
    by_cases hn : names = []
    · simp [hn]
    · rw [String.intercalate_cons_of_ne_nil hn, String.toList_append, String.toList_append,
        List.mem_append, List.mem_append, ih]
      simp [hc]

/-- A character that is no slash and no dot is in a path exactly if it is in one of its names. -/
theorem Path.mem_text {p : Path} {c : Char} (hslash : c ≠ '/') (hdot : c ≠ '.') :
    c ∈ p.text.toList ↔ ∃ name ∈ p.names, c ∈ name.toList := by
  have hsep : c ∉ "/".toList := by
    simpa using hslash
  have hslashes : c ∉ List.replicate p.slashes '/' := fun h => hslash (List.eq_of_mem_replicate h)
  unfold Path.text
  split
  · next h => simp [h.2, hdot]
  · simp only [String.toList_append, String.toList_ofList, List.mem_append, hslashes, false_or]
    exact mem_toList_intercalate hsep

/-- A character that is no slash and no dot is never dropped when a path is read. -/
theorem Path.mem_names_ofText {s : String} {c : Char} (hslash : c ≠ '/') (hdot : c ≠ '.') :
    (∃ name ∈ (ofText s).names, c ∈ name.toList) ↔ c ∈ s.toList := by
  have hname : ∀ piece : List Char, c ∈ piece → isName piece = true := by
    intro piece hm
    have hne : piece ≠ ['.'] := by
      rintro rfl
      exact hdot (List.mem_singleton.1 hm)
    simp [isName, hne, List.ne_nil_of_mem hm]
  rw [← Text.exists_mem_splitOn hslash]
  simp only [ofText, namesOf]
  constructor
  · rintro ⟨name, hn, hm⟩
    obtain ⟨piece, hp, rfl⟩ := List.mem_map.1 hn
    exact ⟨piece, (List.mem_filter.1 hp).1, by simpa using hm⟩
  · rintro ⟨piece, hp, hm⟩
    refine ⟨String.ofList piece, List.mem_map.2 ⟨piece, ?_, rfl⟩, by simpa using hm⟩
    exact List.mem_filter.2 ⟨hp, hname piece hm⟩

theorem Path.null_mem_text {p : Path} :
    '\x00' ∈ p.text.toList ↔ ∃ name ∈ p.names, '\x00' ∈ name.toList :=
  Path.mem_text (by decide) (by decide)

/-- Names that can be followed in a tree that has what they pass: the operating system takes them,
and they do not lead out of the tree. -/
structure Walkable (names : List String) : Prop where
  accepted : Path.Accepted ⟨0, names⟩
  stays : ∀ above, above ++ [Path.up] <+: names → ofNames above ≠ []

theorem Walkable.of_append {above below : List String} (h : Walkable (above ++ below)) :
    Walkable above where
  accepted := h.accepted.of_append
  stays xs hx := h.stays xs (hx.trans (List.prefix_append _ _))

/-- Further names that do not lead up can be followed as well. -/
theorem Walkable.append {names below : List String} (h : Walkable names)
    (hup : Path.up ∉ below) (haccepted : Path.Accepted ⟨0, names ++ below⟩) :
    Walkable (names ++ below) where
  accepted := haccepted
  stays := by
    intro above hp
    rcases List.prefix_or_prefix_of_prefix hp (List.prefix_append names below) with hn | ⟨part, he⟩
    · exact h.stays above hn
    · rw [← he, List.prefix_append_right_inj] at hp
      rcases List.eq_nil_or_concat part with rfl | ⟨rest, last, rfl⟩
      · rw [List.append_nil] at he
        exact h.stays above (he ▸ List.prefix_refl _)
      · -- the last of the further names is not the one that leads up
        rw [List.concat_eq_append, ← List.append_assoc] at he
        obtain ⟨-, hlast⟩ := List.append_inj' he rfl
        rw [List.cons.injEq] at hlast
        refine absurd (hp.subset ?_) hup
        rw [List.concat_eq_append, hlast.1]
        exact List.mem_append_right _ List.mem_cons_self

/-! ### Following names -/

namespace FileTree

variable {t t' : FileTree} {names : List String} {place : Place} {name : String}

theorem enter_of_directory (h : t.entryAt? place = some .directory)
    (hshort : name.utf8ByteSize ≤ nameLimit) (hstays : name = Path.up → place ≠ []) :
    t.enter place name = .ok (Place.step place name) := by
  obtain ⟨entries, he⟩ := entryAt?_eq_directory.1 h
  unfold enter Place.step
  rw [he]
  dsimp only
  split
  · next hup => rw [if_neg (hstays hup)]
  · rw [if_neg (Nat.not_lt.2 hshort)]

theorem enter_of_none (h : t.entryAt? place = none) : t.enter place name = .error .missing := by
  unfold enter
  rw [entryAt?_eq_none.1 h]

/-- Places that are directories where they are not missing are all directories if none is. -/
theorem directory_of_no_gap
    (hd : ∀ place, Passes names place →
      t.entryAt? place = some .directory ∨ t.entryAt? place = none)
    (hgap : ¬ ∃ place, Passes names place ∧ t.entryAt? place = none) :
    ∀ place, Passes names place → t.entryAt? place = some .directory :=
  fun place hp => (hd place hp).resolve_right fun hnone => hgap ⟨place, hp, hnone⟩

theorem follow_append (above below : List String) :
    t.follow place (above ++ below) =
      (t.follow place above).bind fun place => t.follow place below := by
  induction above generalizing place with
  | nil => rfl
  | cons name above ih =>
    rw [List.cons_append, follow, follow]
    cases t.enter place name with
    | error r => rfl
    | ok place => exact ih

/-- Names lead to their place if all places they pass are directories. -/
theorem follow_eq_ok (hw : Walkable names)
    (hd : ∀ place, Passes names place → t.entryAt? place = some .directory) :
    t.follow [] names = .ok (ofNames names) := by
  induction names using List.reverseRecOn with
  | nil => rfl
  | append_singleton names name ih =>
    have hbefore : t.follow [] names = .ok (ofNames names) :=
      ih hw.of_append fun place hp => hd place (Place.passes_concat_of_passes hp)
    have hlast : t.entryAt? (ofNames names) = some .directory := hd _ Place.passes_concat_self
    have hup : name = Path.up → ofNames names ≠ [] := by
      rintro rfl
      exact hw.stays names (List.prefix_refl _)
    have hshort := hw.accepted.short name (List.mem_append_right _ List.mem_cons_self)
    rw [follow_append, hbefore, Place.ofNames_concat]
    show t.follow (ofNames names) [name] = _
    rw [follow, enter_of_directory hlast hshort hup]
    rfl

/-- Names lead nowhere if a place that they pass is missing. -/
theorem follow_eq_missing (hw : Walkable names)
    (hd : ∀ place, Passes names place →
      t.entryAt? place = some .directory ∨ t.entryAt? place = none)
    (hn : ∃ place, Passes names place ∧ t.entryAt? place = none) :
    t.follow [] names = .error .missing := by
  induction names using List.reverseRecOn with
  | nil =>
    obtain ⟨place, hp, -⟩ := hn
    exact absurd hp Place.not_passes_nil
  | append_singleton names name ih =>
    rw [follow_append]
    have hd' : ∀ place, Passes names place →
        t.entryAt? place = some .directory ∨ t.entryAt? place = none :=
      fun place hp => hd place (Place.passes_concat_of_passes hp)
    -- the walk ends at the first place that is missing, before the last name or at it
    by_cases hbefore : ∃ place, Passes names place ∧ t.entryAt? place = none
    · rw [ih hw.of_append hd' hbefore]
      rfl
    · have hall := directory_of_no_gap hd' hbefore
      rw [follow_eq_ok hw.of_append hall]
      obtain ⟨place, hp, hnone⟩ := hn
      rcases Place.visits_iff.1 (Place.passes_concat.1 hp) with hp | rfl
      · rw [hall place hp] at hnone
        cases hnone
      · show t.follow (ofNames names) [name] = _
        rw [follow, enter_of_none hnone]

theorem locate_eq (haccepted : Path.Accepted ⟨0, names⟩) :
    t.locate ⟨0, names⟩ =
      (t.follow [] names).mapError fun r => .refused r (⟨0, names⟩ : Path).shown := by
  unfold locate
  rw [if_neg (by simpa using haccepted.noNull), if_neg (Nat.not_le.2 haccepted.size)]
  rfl

/-- A path leads to the place of its names if all places it passes are directories. -/
theorem locate_eq_ok (hw : Walkable names)
    (hd : ∀ place, Passes names place → t.entryAt? place = some .directory) :
    t.locate ⟨0, names⟩ = .ok (ofNames names) := by
  rw [locate_eq hw.accepted, follow_eq_ok hw hd]
  rfl

theorem locate_eq_missing (hw : Walkable names)
    (hd : ∀ place, Passes names place →
      t.entryAt? place = some .directory ∨ t.entryAt? place = none)
    (hn : ∃ place, Passes names place ∧ t.entryAt? place = none) :
    t.locate ⟨0, names⟩ = .error (.refused .missing (⟨0, names⟩ : Path).shown) := by
  rw [locate_eq hw.accepted, follow_eq_missing hw hd hn]
  rfl

end FileTree
end ApiScribe
