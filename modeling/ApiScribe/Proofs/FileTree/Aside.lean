import ApiScribe.Proofs.FileTree.Endings

/-!
# A leaf that is left aside

Two trees that differ in one leaf (`Laid`) are the same to everyone who keeps away from its place:

* `Laid.locate_eq_ok` — every path leads to the same place in both, if the leaf is a file;
* `Laid.readText` — a file elsewhere is read the same, or refused in both;
* `Indifferent` — an action that keeps away from the place ends the same way in both, and leaves
  two trees that differ in that leaf again.
-/

namespace ApiScribe

open Place (ofNames Visits Passes)

/-- The path does not lead to the place or through it; an absolute path leads out of the tree. -/
def Path.Avoids (p : Path) (place : Place) : Prop :=
  p.isAbsolute = true ∨ ¬ Visits p.names place

theorem Path.Avoids.of_prefix {slashes : Nat} {names part : List String} {place : Place}
    (h : Path.Avoids ⟨slashes, names⟩ place) (hp : part <+: names) :
    Path.Avoids ⟨slashes, part⟩ place := by
  rcases h with habsolute | hvisits
  · exact .inl habsolute
  · refine .inr ?_
    rintro ⟨above, ha, he⟩
    exact hvisits ⟨above, ha.trans hp, he⟩

namespace FileTree

variable {t t' t₁ t₁' : FileTree} {p : Path} {place q : Place} {names : List String} {leaf : Entry}
  {bytes : List UInt8}

/-! ### Where a path leads in two trees -/

/-- Two trees agree on what there is at a place. -/
theorem find?_of_entryAt?_eq (h : t'.entryAt? q = t.entryAt? q) :
    (t.find? q = none ∧ t'.find? q = none) ∨
      (∃ bytes, t.find? q = some (.file bytes) ∧ t'.find? q = some (.file bytes)) ∨
      ∃ entries entries', t.find? q = some (.directory entries) ∧
        t'.find? q = some (.directory entries') := by
  cases hq : t.find? q with
  | none =>
    rw [entryAt?_eq_none.2 hq] at h
    exact .inl ⟨rfl, entryAt?_eq_none.1 h⟩
  | some inner =>
    rw [entryAt?, entryAt?, hq, Option.map_some, Option.map_eq_some_iff] at h
    obtain ⟨inner', hq', htop⟩ := h
    cases inner with
    | file bytes =>
      cases inner' with
      | directory entries => cases htop
      | file bytes' =>
        cases htop
        exact .inr (.inl ⟨bytes, rfl, hq'⟩)
    | directory entries =>
      cases inner' with
      | file bytes => cases htop
      | directory entries' => exact .inr (.inr ⟨entries, entries', rfl, hq'⟩)

theorem enter_congr (h : t'.entryAt? q = t.entryAt? q) (name : String) :
    t'.enter q name = t.enter q name := by
  unfold enter
  rcases find?_of_entryAt?_eq h with ⟨hq, hq'⟩ | ⟨bytes, hq, hq'⟩ | ⟨entries, entries', hq, hq'⟩ <;>
    rw [hq, hq']

/-- Names lead alike in trees that agree on what they pass. -/
theorem follow_congr (h : ∀ q, Passes names q → t'.entryAt? q = t.entryAt? q) :
    t'.follow [] names = t.follow [] names := by
  induction names using List.reverseRecOn with
  | nil => rfl
  | append_singleton names name ih =>
    have hbefore : t'.follow [] names = t.follow [] names :=
      ih fun q hq => h q (Place.passes_concat_of_passes hq)
    rw [follow_append, follow_append, hbefore]
    cases hf : t.follow [] names with
    | error r => rfl
    | ok q =>
      have hq : t'.entryAt? q = t.entryAt? q := by
        rw [show q = ofNames names from eq_foldl_of_follow hf]
        exact h _ Place.passes_concat_self
      show t'.follow q [name] = t.follow q [name]
      rw [follow, follow, enter_congr hq]
      rfl

theorem locate_congr
    (h : p.isAbsolute = true ∨ ∀ q, Passes p.names q → t'.entryAt? q = t.entryAt? q) :
    t'.locate p = t.locate p := by
  unfold locate
  rcases h with h | h
  · rw [h]
    rfl
  · rw [follow_congr h]

/-- Names lead to the same place in a tree with more directories. -/
theorem follow_mono (h : ∀ q, t.entryAt? q = some .directory → t'.entryAt? q = some .directory)
    {start : Place} (hf : t.follow start names = .ok q) : t'.follow start names = .ok q := by
  induction names generalizing start with
  | nil => exact hf
  | cons name names ih =>
    rw [follow] at hf ⊢
    split at hf
    · next inner hi =>
      have hdir := (enter_eq_ok_iff.1 hi).1
      rw [enter_congr ((h _ hdir).trans hdir.symm), hi]
      exact ih hf
    · cases hf

theorem locate_mono (h : ∀ q, t.entryAt? q = some .directory → t'.entryAt? q = some .directory)
    (hp : t.locate p = .ok q) : t'.locate p = .ok q := by
  obtain ⟨hnull, hsize, hrelative, hf⟩ := locate_eq_ok_iff.1 hp
  exact locate_eq_ok_iff.2 ⟨hnull, hsize, hrelative, follow_mono h hf⟩

/-! ### Two trees that differ in a leaf -/

/-- A file in place of no directory leaves the directories as they are. -/
theorem Laid.directory_iff (h : Laid t place (.file bytes) t') :
    t'.entryAt? q = some .directory ↔ t.entryAt? q = some .directory := by
  by_cases hq : q = place
  · subst hq
    rw [h.here]
    simp [h.free]
  · rw [h.elsewhere q hq]

/-- Every path leads to the same place. -/
theorem Laid.locate_eq_ok (h : Laid t place (.file bytes) t') :
    t'.locate p = .ok q ↔ t.locate p = .ok q :=
  ⟨locate_mono fun _ => h.directory_iff.1, locate_mono fun _ => h.directory_iff.2⟩

/-- A path that avoids the place fails alike as well. -/
theorem Laid.locate_eq (h : Laid t place leaf t') (hp : p.Avoids place) :
    t'.locate p = t.locate p := by
  apply locate_congr
  rcases hp with habsolute | hvisits
  · exact .inl habsolute
  · refine .inr fun q hq => h.elsewhere q ?_
    rintro rfl
    exact hvisits (Place.visits_iff.2 (.inl hq))

theorem ne_of_locate (hp : p.Avoids place) (hq : t.locate p = .ok q) : q ≠ place := by
  rintro rfl
  rcases hp with habsolute | hvisits
  · rw [isAbsolute_of_locate hq] at habsolute
    cases habsolute
  · rw [eq_ofNames_of_locate hq] at hvisits
    exact hvisits (Place.visits_iff.2 (.inr rfl))

theorem readText_of_locate {e : FileError} (h : t.locate p = .error e) :
    t.readText p = .error e := by
  unfold FileTree.readText read
  rw [h]
  rfl

/-- A path that does not lead to the place is read alike, or refused in both trees. -/
theorem Laid.readText (h : Laid t place (.file bytes) t') (hp : t.locate p ≠ .ok place) :
    t'.readText p = t.readText p ∨
      (∃ e, t.readText p = .error e ∧ e.IsRefusal) ∧
        ∃ e, t'.readText p = .error e ∧ e.IsRefusal := by
  by_cases hnull : '\x00' ∈ p.text.toList
  · left
    rw [readText_of_locate (locate_of_null hnull), readText_of_locate (locate_of_null hnull)]
  cases hl : t.locate p with
  | error e =>
    right
    refine ⟨⟨e, readText_of_locate hl, isRefusal_of_locate hnull hl⟩, ?_⟩
    cases hl' : t'.locate p with
    | error e' => exact ⟨e', readText_of_locate hl', isRefusal_of_locate hnull hl'⟩
    | ok q =>
      rw [h.locate_eq_ok, hl] at hl'
      cases hl'
  | ok q =>
    left
    have hq : q ≠ place := by
      rintro rfl
      exact hp hl
    unfold FileTree.readText read
    rw [h.locate_eq_ok.2 hl, hl, Outcome.ok_bind, Outcome.ok_bind]
    rcases find?_of_entryAt?_eq (h.elsewhere q hq) with
      ⟨hf, hf'⟩ | ⟨bytes, hf, hf'⟩ | ⟨entries, entries', hf, hf'⟩ <;>
    · rw [hf, hf']

theorem Laid.hasDirectory_eq (h : Laid t place leaf t') (hp : p.Avoids place) :
    t'.hasDirectory p = t.hasDirectory p := by
  unfold hasDirectory
  rw [h.locate_eq hp]
  cases hl : t.locate p with
  | error e => rfl
  | ok q =>
    rcases find?_of_entryAt?_eq (h.elsewhere q (ne_of_locate hp hl)) with
      ⟨hq, hq'⟩ | ⟨bytes, hq, hq'⟩ | ⟨entries, entries', hq, hq'⟩ <;>
    · simp [hq, hq', isDirectory]

theorem Laid.hasEntry_eq (h : Laid t place leaf t') (hp : p.Avoids place) :
    t'.hasEntry p = t.hasEntry p := by
  unfold hasEntry
  rw [h.locate_eq hp]
  cases hl : t.locate p with
  | error e =>
    cases e with
    | refused r shown => cases r <;> rfl
    | nullCharacter => rfl
    | notUtf8 e => rfl
  | ok q =>
    rcases find?_of_entryAt?_eq (h.elsewhere q (ne_of_locate hp hl)) with
      ⟨hq, hq'⟩ | ⟨bytes, hq, hq'⟩ | ⟨entries, entries', hq, hq'⟩ <;>
    · simp [hq, hq']

/-- Another leaf may be laid in both trees. -/
theorem Laid.laid {new : Entry} (h : Laid t place leaf t') (hne : q ≠ place)
    (h₁ : Laid t q new t₁) (h₁' : Laid t' q new t₁') : Laid t₁ place leaf t₁' where
  free := by
    rw [h₁.elsewhere place hne.symm]
    exact h.free
  here := by
    rw [h₁'.elsewhere place hne.symm]
    exact h.here
  elsewhere := by
    intro other hother
    by_cases hq : other = q
    · rw [hq, h₁.here, h₁'.here]
    · rw [h₁.elsewhere other hq, h₁'.elsewhere other hq, h.elsewhere other hother]

/-- What is at a place and below it may be changed in both trees, if the leaf is not there. -/
theorem Laid.cut (h : Laid t place leaf t') (hout : ¬ q <+: place)
    (helse : ∀ other, ¬ q <+: other → t₁.entryAt? other = t.entryAt? other)
    (helse' : ∀ other, ¬ q <+: other → t₁'.entryAt? other = t'.entryAt? other)
    (hbelow : ∀ below, t₁'.entryAt? (q ++ below) = t₁.entryAt? (q ++ below)) :
    Laid t₁ place leaf t₁' where
  free := by
    rw [helse place hout]
    exact h.free
  here := by
    rw [helse' place hout]
    exact h.here
  elsewhere := by
    intro other hother
    by_cases hq : q <+: other
    · obtain ⟨below, rfl⟩ := hq
      exact hbelow below
    · rw [helse other hq, helse' other hq, h.elsewhere other hother]

/-! ### Single operations -/

/-- A step takes trees that differ in the leaf to such trees, or fails on both with one error. -/
def IndifferentOnce (place : Place) (leaf : Entry) (f : FileTree → Except FileError FileTree) :
    Prop :=
  ∀ t t', Laid t place leaf t' →
    (∃ t₁ t₁', f t = .ok t₁ ∧ f t' = .ok t₁' ∧ Laid t₁ place leaf t₁') ∨
      ∃ e, f t = .error e ∧ f t' = .error e

/-- A step that looks where a path leads and goes on from there. -/
theorem indifferentOnce_of_locate {f : FileTree → Except FileError FileTree}
    {g : FileTree → Place → Except FileError FileTree} (hp : p.Avoids place)
    (hf : ∀ t, f t = t.locate p >>= g t)
    (hg : ∀ t t' q, Laid t place leaf t' → t.locate p = .ok q → t'.locate p = .ok q →
      (∃ t₁ t₁', g t q = .ok t₁ ∧ g t' q = .ok t₁' ∧ Laid t₁ place leaf t₁') ∨
        ∃ e, g t q = .error e ∧ g t' q = .error e) : IndifferentOnce place leaf f := by
  intro t t' h
  have hl' := h.locate_eq hp
  rw [hf, hf, hl']
  cases hl : t.locate p with
  | error e => exact .inr ⟨e, rfl, rfl⟩
  | ok q =>
    rw [hl] at hl'
    exact hg t t' q h hl hl'

theorem indifferentOnce_makeDirectory (hp : p.Avoids place) :
    IndifferentOnce place leaf (FileTree.makeDirectory · p) := by
  refine indifferentOnce_of_locate hp (fun _ => rfl) ?_
  intro t t' q h hl hl'
  have hne := ne_of_locate hp hl
  rcases find?_of_entryAt?_eq (h.elsewhere q hne) with
    ⟨hq, hq'⟩ | ⟨bytes, hq, hq'⟩ | ⟨entries, entries', hq, hq'⟩
  · have hfree : t.entryAt? q ≠ some .directory := by
      rw [entryAt?_eq_none.2 hq]
      exact (Option.some_ne_none _).symm
    have hfree' := (h.elsewhere q hne).trans_ne hfree
    rw [hq, hq']
    exact .inl ⟨_, _, rfl, rfl, h.laid hne (laid_put empty hl hfree fun _ _ => rfl)
      (laid_put empty hl' hfree' fun _ _ => rfl)⟩
  · rw [hq, hq']
    exact .inr ⟨_, rfl, rfl⟩
  · rw [hq, hq']
    exact .inr ⟨_, rfl, rfl⟩

theorem indifferentOnce_write (hp : p.Avoids place) (bytes : List UInt8) :
    IndifferentOnce place leaf (FileTree.write · p bytes) := by
  refine indifferentOnce_of_locate hp (fun _ => rfl) ?_
  intro t t' q h hl hl'
  have hne := ne_of_locate hp hl
  have hlaid (hfree : t.entryAt? q ≠ some .directory) :
      Laid (t.put q (.file bytes)) place leaf (t'.put q (.file bytes)) := by
    have hfree' := (h.elsewhere q hne).trans_ne hfree
    exact h.laid hne (laid_put (.file bytes) hl hfree fun _ _ => rfl)
      (laid_put (.file bytes) hl' hfree' fun _ _ => rfl)
  rcases find?_of_entryAt?_eq (h.elsewhere q hne) with
    ⟨hq, hq'⟩ | ⟨old, hq, hq'⟩ | ⟨entries, entries', hq, hq'⟩
  · rw [hq, hq']
    exact .inl ⟨_, _, rfl, rfl, hlaid (by rw [entryAt?, hq]; exact (Option.some_ne_none _).symm)⟩
  · rw [hq, hq']
    refine .inl ⟨_, _, rfl, rfl, hlaid ?_⟩
    rw [entryAt?, hq]
    intro hd
    cases hd
  · rw [hq, hq']
    exact .inr ⟨_, rfl, rfl⟩

/-- A path to a directory that the leaf is not in leads below the top, into a directory. -/
theorem exists_above (h : t.entryAt? q ≠ none) (hout : ¬ q <+: place) :
    ∃ above name, q = above ++ [name] ∧ t.entryAt? above = some .directory := by
  rcases List.eq_nil_or_concat q with rfl | ⟨above, name, rfl⟩
  · exact absurd List.nil_prefix hout
  · rw [List.concat_eq_append] at h ⊢
    exact ⟨above, name, rfl, entryAt?_of_append (List.cons_ne_nil name []) h⟩

theorem indifferentOnce_clearDirectory (hp : p.Avoids place)
    (hout : ∀ t q, FileTree.locate t p = .ok q → ¬ q <+: place) :
    IndifferentOnce place leaf (FileTree.clearDirectory · p) := by
  refine indifferentOnce_of_locate hp (fun _ => rfl) ?_
  intro t t' q h hl hl'
  have hne := ne_of_locate hp hl
  rcases find?_of_entryAt?_eq (h.elsewhere q hne) with
    ⟨hq, hq'⟩ | ⟨bytes, hq, hq'⟩ | ⟨entries, entries', hq, hq'⟩
  · rw [hq, hq']
    exact .inr ⟨_, rfl, rfl⟩
  · rw [hq, hq']
    exact .inr ⟨_, rfl, rfl⟩
  · have hsome : t.entryAt? q ≠ none := by
      rw [entryAt?, hq]
      exact Option.some_ne_none _
    have hsome' : t'.entryAt? q ≠ none := by
      rw [entryAt?, hq']
      exact Option.some_ne_none _
    obtain ⟨above, name, rfl, habove⟩ := exists_above hsome (hout t q hl)
    have habove' := entryAt?_of_append (List.cons_ne_nil name []) hsome'
    rw [hq, hq']
    refine .inl ⟨_, _, rfl, rfl, h.cut (hout t _ hl) ?_ ?_ ?_⟩
    · exact fun other hother => entryAt?_put_elsewhere habove hother
    · exact fun other hother => entryAt?_put_elsewhere habove' hother
    · intro below
      rw [entryAt?_put_append habove, entryAt?_put_append habove']

theorem indifferentOnce_removeDirectory (hp : p.Avoids place)
    (hout : ∀ t q, FileTree.locate t p = .ok q → ¬ q <+: place) :
    IndifferentOnce place leaf (FileTree.removeDirectory · p) := by
  refine indifferentOnce_of_locate hp (fun _ => rfl) ?_
  intro t t' q h hl hl'
  have hne := ne_of_locate hp hl
  have htop : q ≠ [] := by
    rintro rfl
    exact hout t [] hl List.nil_prefix
  rcases find?_of_entryAt?_eq (h.elsewhere q hne) with
    ⟨hq, hq'⟩ | ⟨bytes, hq, hq'⟩ | ⟨entries, entries', hq, hq'⟩
  · rw [hq, hq']
    exact .inr ⟨_, rfl, rfl⟩
  · rw [hq, hq']
    exact .inr ⟨_, rfl, rfl⟩
  · rw [hq, hq']
    dsimp only
    rw [if_neg htop, if_neg htop]
    refine .inl ⟨_, _, rfl, rfl, h.cut (hout t q hl) ?_ ?_ ?_⟩
    · exact fun other hother => entryAt?_erase_elsewhere hother
    · exact fun other hother => entryAt?_erase_elsewhere hother
    · intro below
      rw [entryAt?_append_of_none (entryAt?_erase_self htop),
        entryAt?_append_of_none (entryAt?_erase_self htop)]

/-! ### Actions -/

namespace Action

variable {α β : Type} {x : Action α} {f : α → Action β}

/-- Two actions, each on its tree, end in the same way and leave trees that differ in the leaf. -/
def Agree (place : Place) (leaf : Entry) (x : Action α) (t : FileTree) (x' : Action α)
    (t' : FileTree) : Prop :=
  (x'.run.run t').1 = (x.run.run t).1 ∧ Laid (x.run.run t).2 place leaf (x'.run.run t').2

/-- The action does the same on trees that differ in the leaf. -/
def Indifferent (place : Place) (leaf : Entry) (x : Action α) : Prop :=
  ∀ t t', Laid t place leaf t' → Agree place leaf x t x t'

theorem indifferent_pure (a : α) : Indifferent place leaf (pure a) := fun _ _ h => ⟨rfl, h⟩

theorem indifferent_throw (e : FileError) : Indifferent place leaf (throw e : Action α) :=
  fun _ _ h => ⟨rfl, h⟩

/-- What comes after a look at the tree is done on that tree. -/
theorem agree_get_bind {g g' : FileTree → Action α} :
    Agree place leaf (get >>= g) t (get >>= g') t' ↔ Agree place leaf (g t) t (g' t') t' := Iff.rfl

theorem Indifferent.bind (hx : Indifferent place leaf x) (hf : ∀ a, Indifferent place leaf (f a)) :
    Indifferent place leaf (x >>= f) := by
  intro t t' h
  obtain ⟨houtcome, hlaid⟩ := hx t t' h
  unfold Agree
  rcases hr : x.run.run t with ⟨outcome, t₁⟩
  rcases hr' : x.run.run t' with ⟨outcome', t₁'⟩
  rw [hr, hr'] at houtcome hlaid
  obtain rfl : outcome' = outcome := houtcome
  cases outcome' with
  | error e =>
    rw [Outcome.run_bind_of_error hr, Outcome.run_bind_of_error hr']
    exact ⟨rfl, hlaid⟩
  | ok a =>
    rw [Outcome.run_bind_of_ok hr, Outcome.run_bind_of_ok hr']
    exact hf a t₁ t₁' hlaid

theorem indifferent_ofStep {f : FileTree → Except FileError FileTree}
    (h : IndifferentOnce place leaf f) : Indifferent place leaf (ofStep f) := by
  intro t t' hlaid
  unfold ofStep
  rw [agree_get_bind]
  rcases h t t' hlaid with ⟨t₁, t₁', ht, ht', hlaid₁⟩ | ⟨e, ht, ht'⟩
  · rw [ht, ht']
    exact ⟨rfl, hlaid₁⟩
  · rw [ht, ht']
    exact ⟨rfl, hlaid⟩

theorem makeDirectory_of_laid (h : Laid t place leaf t') (hp : p.Avoids place) :
    (∃ t₁ t₁', t.makeDirectory p = .ok t₁ ∧ t'.makeDirectory p = .ok t₁' ∧
        Laid t₁ place leaf t₁') ∨
      ∃ e, t.makeDirectory p = .error e ∧ t'.makeDirectory p = .error e :=
  indifferentOnce_makeDirectory hp t t' h

theorem indifferent_makeDirectory {existing : Bool} (hp : p.Avoids place) :
    Indifferent place leaf (makeDirectory existing p) := by
  intro t t' hlaid
  unfold makeDirectory
  rw [agree_get_bind, hlaid.hasDirectory_eq hp]
  rcases makeDirectory_of_laid hlaid hp with ⟨t₁, t₁', ht, ht', hlaid₁⟩ | ⟨e, ht, ht'⟩
  · rw [ht, ht']
    exact ⟨rfl, hlaid₁⟩
  · rw [ht, ht']
    dsimp only
    split <;> exact ⟨rfl, hlaid⟩

theorem indifferent_makeDirectoriesOf {slashes : Nat} {existing : Bool} {above : List String}
    (hp : Path.Avoids ⟨slashes, above.reverse⟩ place) :
    Indifferent place leaf (makeDirectoriesOf slashes existing above) := by
  induction above generalizing existing with
  | nil => exact indifferent_makeDirectory hp
  | cons name above ih =>
    have habove : Indifferent place leaf (makeDirectoriesOf slashes true above) := by
      apply ih
      apply Path.Avoids.of_prefix hp
      rw [List.reverse_cons]
      exact List.prefix_append _ _
    have hself :
        Indifferent place leaf (makeDirectory existing ⟨slashes, (name :: above).reverse⟩) :=
      indifferent_makeDirectory hp
    intro t t' hlaid
    unfold makeDirectoriesOf
    dsimp only
    rw [agree_get_bind]
    -- the attempt tells in both trees alike whether something on the way is missing
    rcases makeDirectory_of_laid hlaid hp with ⟨t₁, t₁', ht, ht', -⟩ | ⟨e, ht, ht'⟩
    · rw [ht, ht']
      exact hself t t' hlaid
    · rw [ht, ht']
      split
      · exact (habove.bind fun _ => hself) t t' hlaid
      · exact hself t t' hlaid

theorem indifferent_makeDirectories {existing : Bool} (hp : p.Avoids place) :
    Indifferent place leaf (makeDirectories existing p) := by
  apply indifferent_makeDirectoriesOf
  rw [List.reverse_reverse]
  exact hp

theorem indifferent_store (hp : p.Avoids place) : Indifferent place leaf (store p bytes) := by
  have hparent : p.parent.Avoids place := hp.of_prefix (List.dropLast_prefix _)
  exact (indifferent_makeDirectories hparent).bind fun _ =>
    indifferent_ofStep (indifferentOnce_write hp bytes)

theorem indifferent_removeTree (hp : p.Avoids place)
    (hout : ∀ t q, FileTree.locate t p = .ok q → ¬ q <+: place) :
    Indifferent place leaf (removeTree p) :=
  (indifferent_ofStep (indifferentOnce_clearDirectory hp hout)).bind fun _ =>
    indifferent_ofStep (indifferentOnce_removeDirectory hp hout)

end Action
end FileTree
end ApiScribe
