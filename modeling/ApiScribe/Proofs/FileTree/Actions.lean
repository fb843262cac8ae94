import ApiScribe.Outcome
import ApiScribe.Proofs.FileTree.Way

/-!
# What actions do

Each action on files, said by what there is at the places of the tree before and after it:
`succeeds_makeDirectories` for making a directory and those above it, `succeeds_store` for writing a
file, `succeeds_removeTree` for removing a directory with all that is in it.
-/

namespace ApiScribe.FileTree

open Place (ofNames Visits Passes)

variable {t t' : FileTree} {names : List String}

/-! ### Single operations -/

/-- Where nothing is, the place is in the directory that the names pass last. -/
theorem ofNames_eq_concat (hd : ∀ place, Passes names place → t.entryAt? place = some .directory)
    (hn : t.entryAt? (ofNames names) = none) :
    ∃ place name, ofNames names = place ++ [name] ∧ t.entryAt? place = some .directory := by
  induction names using List.reverseRecOn with
  | nil => exact absurd hn (Option.some_ne_none _)
  | append_singleton above name _ =>
    have habove : t.entryAt? (ofNames above) = some .directory := hd _ Place.passes_concat_self
    rw [Place.ofNames_concat, Place.step] at hn ⊢
    split at hn
    · -- two dots lead to a directory above one that is there
      exfalso
      by_cases he : ofNames above = []
      · rw [he, List.dropLast_nil, ← he, habove] at hn
        cases hn
      · rw [← List.dropLast_concat_getLast he, entryAt?_append_of_none hn] at habove
        cases habove
    · next hup =>
      rw [if_neg hup]
      exact ⟨_, _, rfl, habove⟩

theorem makeDirectory_eq_missing (hw : Walkable names)
    (hd : ∀ place, Passes names place →
      t.entryAt? place = some .directory ∨ t.entryAt? place = none)
    (hn : ∃ place, Passes names place ∧ t.entryAt? place = none) :
    t.makeDirectory ⟨0, names⟩ = .error (.refused .missing (⟨0, names⟩ : Path).shown) := by
  unfold makeDirectory
  rw [locate_eq_missing hw hd hn]
  rfl

theorem makeDirectory_eq_existing (hw : Walkable names)
    (hd : ∀ place, Passes names place → t.entryAt? place = some .directory)
    (he : t.entryAt? (ofNames names) ≠ none) :
    t.makeDirectory ⟨0, names⟩ = .error (.refused .existing (⟨0, names⟩ : Path).shown) := by
  unfold makeDirectory
  rw [locate_eq_ok hw hd]
  rw [Ne, entryAt?_eq_none] at he
  obtain ⟨inner, hi⟩ := Option.ne_none_iff_exists'.1 he
  rw [Outcome.ok_bind, hi]
  rfl

theorem makeDirectory_eq_ok (hw : Walkable names)
    (hd : ∀ place, Passes names place → t.entryAt? place = some .directory)
    (hn : t.entryAt? (ofNames names) = none) :
    t.makeDirectory ⟨0, names⟩ = .ok (t.put (ofNames names) empty) := by
  unfold makeDirectory
  rw [locate_eq_ok hw hd]
  rw [Outcome.ok_bind, entryAt?_eq_none.1 hn]
  rfl

theorem makeDirectory_ne_missing (hw : Walkable names)
    (hd : ∀ place, Passes names place → t.entryAt? place = some .directory) (shown : String) :
    t.makeDirectory ⟨0, names⟩ ≠ .error (.refused .missing shown) := by
  intro h
  by_cases he : t.entryAt? (ofNames names) = none
  · rw [makeDirectory_eq_ok hw hd he] at h
    cases h
  · rw [makeDirectory_eq_existing hw hd he] at h
    cases h

/-- A leaf put where no directory was shows at its place only. -/
theorem entryAt?_put_leaf {place other : Place} {name : String} {new : FileTree}
    (h : t.entryAt? place = some .directory)
    (hn : t.entryAt? (place ++ [name]) ≠ some .directory)
    (hleaf : ∀ n below, new.entryAt? (n :: below) = none) (hne : other ≠ place ++ [name]) :
    (t.put (place ++ [name]) new).entryAt? other = t.entryAt? other := by
  by_cases hp : place ++ [name] <+: other
  · obtain ⟨below, rfl⟩ := hp
    cases below with
    | nil => exact absurd (List.append_nil _) hne
    | cons n below =>
      have hbelow : t.entryAt? (place ++ [name] ++ n :: below) = none := by
        by_contra hsome
        exact hn (entryAt?_of_append (List.cons_ne_nil n below) hsome)
      rw [entryAt?_put_append h, hbelow]
      exact hleaf n below
  · exact entryAt?_put_elsewhere h hp

theorem entryAt?_put_self {place : Place} {name : String} {new : FileTree}
    (h : t.entryAt? place = some .directory) :
    (t.put (place ++ [name]) new).entryAt? (place ++ [name]) = some new.top := by
  have hp : (t.put (place ++ [name]) new).entryAt? (place ++ [name] ++ []) = new.entryAt? [] :=
    entryAt?_put_append h []
  rw [List.append_nil] at hp
  exact hp

/-! ### Actions -/

namespace Action

variable {α β : Type}

/-- The action succeeds on a tree with a value, and leaves another tree. -/
def Succeeds (x : Action α) (t : FileTree) (a : α) (t' : FileTree) : Prop :=
  x.run.run t = (.ok a, t')

theorem Succeeds.bind {x : Action α} {f : α → Action β} {t t' t'' : FileTree} {a : α} {b : β}
    (hx : Succeeds x t a t') (hf : Succeeds (f a) t' b t'') : Succeeds (x >>= f) t b t'' := by
  unfold Succeeds at *
  rw [Outcome.run_bind_of_ok hx, hf]

/-- What comes after a look at the tree is done on that tree. -/
theorem succeeds_get_bind {f : FileTree → Action α} {a : α} :
    Succeeds (get >>= f) t a t' ↔ Succeeds (f t) t a t' := Iff.rfl

theorem succeeds_ofStep {f : FileTree → Except FileError FileTree} (h : f t = .ok t') :
    Succeeds (ofStep f) t () t' := by
  unfold ofStep
  rw [succeeds_get_bind, h]
  rfl

/-- In a directory the last step of making one succeeds, if nothing is there or a directory will
do.  It changes nothing else. -/
theorem succeeds_makeDirectory {existing : Bool} (hw : Walkable names)
    (hd : ∀ place, Passes names place → t.entryAt? place = some .directory)
    (hfree : t.entryAt? (ofNames names) = none ∨
      t.entryAt? (ofNames names) = some .directory ∧ existing = true) :
    ∃ t', Succeeds (makeDirectory existing ⟨0, names⟩) t () t' ∧
      t'.entryAt? (ofNames names) = some .directory ∧
      ∀ place, place ≠ ofNames names → t'.entryAt? place = t.entryAt? place := by
  rcases hfree with hn | ⟨hdir, rfl⟩
  · obtain ⟨place, name, he, hplace⟩ := ofNames_eq_concat hd hn
    refine ⟨t.put (ofNames names) empty, ?_, ?_, ?_⟩
    · unfold makeDirectory
      rw [succeeds_get_bind, makeDirectory_eq_ok hw hd hn]
      rfl
    · rw [he]
      exact entryAt?_put_self hplace
    · intro other hother
      rw [he] at hn hother ⊢
      have hfree : t.entryAt? (place ++ [name]) ≠ some .directory := by
        rw [hn]
        exact (Option.some_ne_none _).symm
      exact entryAt?_put_leaf hplace hfree (fun _ _ => rfl) hother
  · refine ⟨t, ?_, hdir, fun _ _ => rfl⟩
    have hhas : t.hasDirectory ⟨0, names⟩ = true := by
      obtain ⟨entries, he⟩ := entryAt?_eq_directory.1 hdir
      unfold hasDirectory
      rw [locate_eq_ok hw hd]
      dsimp only
      rw [he]
      rfl
    have hex := makeDirectory_eq_existing hw hd (by rw [hdir]; exact Option.some_ne_none _)
    unfold makeDirectory
    rw [succeeds_get_bind, hex, hhas]
    rfl

/-! ### Directories and those above them -/

/-- All places that names visit are directories, and everything else is as before. -/
structure Made (t : FileTree) (names : List String) (t' : FileTree) : Prop where
  visited : ∀ place, Visits names place → t'.entryAt? place = some .directory
  elsewhere : ∀ place, ¬ Visits names place → t'.entryAt? place = t.entryAt? place

/-- In a directory that is missing, those above it are made first. -/
theorem Succeeds.makeDirectoriesOf_of_missing {slashes : Nat} {existing : Bool}
    {name shown : String} {above : List String}
    (hm : t.makeDirectory ⟨slashes, (name :: above).reverse⟩ =
      .error (.refused .missing shown))
    (h : Succeeds (do
      makeDirectoriesOf slashes true above
      makeDirectory existing ⟨slashes, (name :: above).reverse⟩) t () t') :
    Succeeds (makeDirectoriesOf slashes existing (name :: above)) t () t' := by
  unfold makeDirectoriesOf
  dsimp only
  rw [succeeds_get_bind, hm]
  exact h

theorem Succeeds.makeDirectoriesOf_of_not_missing {slashes : Nat} {existing : Bool} {name : String}
    {above : List String} (hm : ∀ shown, t.makeDirectory ⟨slashes, (name :: above).reverse⟩ ≠
      .error (.refused .missing shown))
    (h : Succeeds (makeDirectory existing ⟨slashes, (name :: above).reverse⟩) t () t') :
    Succeeds (makeDirectoriesOf slashes existing (name :: above)) t () t' := by
  unfold makeDirectoriesOf
  dsimp only
  rw [succeeds_get_bind]
  split
  · next shown he => exact absurd he (hm shown)
  · exact h

/-- With the directory above made, the last step makes the directory itself. -/
theorem succeeds_makeDirectory_of_made {existing : Bool} {name : String} {t₁ : FileTree}
    (hw : Walkable (names ++ [name]))
    (hfree : t.entryAt? (ofNames (names ++ [name])) = none ∨
      t.entryAt? (ofNames (names ++ [name])) = some .directory ∧ existing = true)
    (hnew : existing = false → ¬ Passes (names ++ [name]) (ofNames (names ++ [name])))
    (hm : Made t names t₁) :
    ∃ t', Succeeds (makeDirectory existing ⟨0, names ++ [name]⟩) t₁ () t' ∧
      Made t (names ++ [name]) t' := by
  have hpass : ∀ place, Passes (names ++ [name]) place → t₁.entryAt? place = some .directory :=
    fun place hp => hm.visited place (Place.passes_concat.1 hp)
  have hfree₁ : t₁.entryAt? (ofNames (names ++ [name])) = none ∨
      t₁.entryAt? (ofNames (names ++ [name])) = some .directory ∧ existing = true := by
    -- a way that leads through its own end finds a directory there, which has to do
    by_cases hv : Visits names (ofNames (names ++ [name]))
    · right
      refine ⟨hm.visited _ hv, ?_⟩
      cases existing with
      | true => rfl
      | false => exact absurd (Place.passes_concat.2 hv) (hnew rfl)
    · rw [hm.elsewhere _ hv]
      exact hfree
  obtain ⟨t', hs, hdir, helse⟩ := succeeds_makeDirectory hw hpass hfree₁
  refine ⟨t', hs, ⟨?_, ?_⟩⟩
  · intro place hv
    by_cases he : place = ofNames (names ++ [name])
    · rw [he]
      exact hdir
    · rw [helse place he]
      exact hm.visited place ((Place.visits_concat.1 hv).resolve_right he)
  · intro place hv
    rw [Place.visits_concat, not_or] at hv
    rw [helse place hv.2, hm.elsewhere place hv.1]

/-- A directory is made together with those above it that are missing, if no file is in the way.
If it must not exist yet, the way to it must not lead through it either. -/
theorem succeeds_makeDirectoriesOf {above : List String} {existing : Bool}
    (hw : Walkable above.reverse)
    (hd : ∀ place, Passes above.reverse place →
      t.entryAt? place = some .directory ∨ t.entryAt? place = none)
    (hfree : t.entryAt? (ofNames above.reverse) = none ∨
      t.entryAt? (ofNames above.reverse) = some .directory ∧ existing = true)
    (hnew : existing = false → ¬ Passes above.reverse (ofNames above.reverse)) :
    ∃ t', Succeeds (makeDirectoriesOf 0 existing above) t () t' ∧ Made t above.reverse t' := by
  induction above generalizing existing with
  | nil =>
    obtain ⟨t', hs, hdir, helse⟩ := succeeds_makeDirectory hw
      (fun place hp => absurd hp Place.not_passes_nil) hfree
    refine ⟨t', hs, ⟨?_, ?_⟩⟩
    · intro place hv
      rw [Place.visits_nil.1 hv]
      exact hdir
    · intro place hv
      exact helse place fun he => hv (Place.visits_nil.2 he)
  | cons name above ih =>
    have hreverse : (name :: above).reverse = above.reverse ++ [name] := List.reverse_cons
    rw [hreverse] at hw hd hfree hnew ⊢
    -- the first attempt fails exactly if something on the way is missing
    by_cases hgap : ∃ place, Passes (above.reverse ++ [name]) place ∧ t.entryAt? place = none
    · have hmissing := makeDirectory_eq_missing hw hd hgap
      have hd' : ∀ place, Passes above.reverse place →
          t.entryAt? place = some .directory ∨ t.entryAt? place = none :=
        fun place hp => hd place (Place.passes_concat_of_passes hp)
      have habove : t.entryAt? (ofNames above.reverse) = none ∨
          t.entryAt? (ofNames above.reverse) = some .directory ∧ true = true :=
        (hd _ Place.passes_concat_self).symm.imp_right fun h => ⟨h, rfl⟩
      obtain ⟨t₁, hs₁, hm₁⟩ := ih hw.of_append hd' habove (by intro h; cases h)
      obtain ⟨t', hs, hm⟩ := succeeds_makeDirectory_of_made hw hfree hnew hm₁
      rw [← hreverse] at hs hmissing
      exact ⟨t', .makeDirectoriesOf_of_missing hmissing (hs₁.bind hs), hm⟩
    · have hall := directory_of_no_gap hd hgap
      have hmissing := makeDirectory_ne_missing hw hall
      have hm₁ : Made t above.reverse t :=
        ⟨fun place hv => hall place (Place.passes_concat.2 hv), fun _ _ => rfl⟩
      obtain ⟨t', hs, hm⟩ := succeeds_makeDirectory_of_made hw hfree hnew hm₁
      rw [← hreverse] at hs hmissing
      exact ⟨t', .makeDirectoriesOf_of_not_missing hmissing hs, hm⟩

/-- A directory is made together with those above it that are missing. -/
theorem succeeds_makeDirectories {existing : Bool} (hw : Walkable names)
    (hd : ∀ place, Passes names place →
      t.entryAt? place = some .directory ∨ t.entryAt? place = none)
    (hfree : t.entryAt? (ofNames names) = none ∨
      t.entryAt? (ofNames names) = some .directory ∧ existing = true)
    (hnew : existing = false → ¬ Passes names (ofNames names)) :
    ∃ t', Succeeds (makeDirectories existing ⟨0, names⟩) t () t' ∧ Made t names t' := by
  have hreverse : names.reverse.reverse = names := List.reverse_reverse names
  rw [← hreverse] at hw hd hfree hnew
  obtain ⟨t', hs, hm⟩ := succeeds_makeDirectoriesOf hw hd hfree hnew
  rw [hreverse] at hm
  exact ⟨t', hs, hm⟩

/-! ### Files -/

theorem write_eq_ok {bytes : List UInt8} (hw : Walkable names)
    (hd : ∀ place, Passes names place → t.entryAt? place = some .directory)
    (hn : t.entryAt? (ofNames names) = none) :
    t.write ⟨0, names⟩ bytes = .ok (t.put (ofNames names) (.file bytes)) := by
  unfold write
  rw [locate_eq_ok hw hd]
  rw [Outcome.ok_bind, entryAt?_eq_none.1 hn]
  rfl

/-- A new file is stored, and the directories above it that are missing are made. -/
theorem succeeds_store {bytes : List UInt8} {name : String} (hw : Walkable (names ++ [name]))
    (hd : ∀ place, Visits names place →
      t.entryAt? place = some .directory ∨ t.entryAt? place = none)
    (hn : t.entryAt? (ofNames (names ++ [name])) = none)
    (hnew : ¬ Visits names (ofNames (names ++ [name]))) :
    ∃ t', Succeeds (store ⟨0, names ++ [name]⟩ bytes) t () t' ∧
      t'.entryAt? (ofNames (names ++ [name])) = some (.file bytes) ∧
      (∀ place, Visits names place → t'.entryAt? place = some .directory) ∧
      ∀ place, place ≠ ofNames (names ++ [name]) → ¬ Visits names place →
        t'.entryAt? place = t.entryAt? place := by
  have hfree : t.entryAt? (ofNames names) = none ∨
      t.entryAt? (ofNames names) = some .directory ∧ true = true :=
    (hd _ (Place.visits_iff.2 (.inr rfl))).symm.imp_right fun h => ⟨h, rfl⟩
  obtain ⟨t₁, hs₁, hm⟩ := succeeds_makeDirectories hw.of_append
    (fun place hp => hd place (Place.visits_iff.2 (.inl hp))) hfree (by intro h; cases h)
  have hpass : ∀ place, Passes (names ++ [name]) place → t₁.entryAt? place = some .directory :=
    fun place hp => hm.visited place (Place.passes_concat.1 hp)
  have hn₁ : t₁.entryAt? (ofNames (names ++ [name])) = none := by
    rw [hm.elsewhere _ hnew]
    exact hn
  obtain ⟨place, last, he, hplace⟩ := ofNames_eq_concat hpass hn₁
  have helse : ∀ other, other ≠ ofNames (names ++ [name]) →
      (t₁.put (ofNames (names ++ [name])) (.file bytes)).entryAt? other = t₁.entryAt? other := by
    intro other hother
    rw [he] at hn₁ hother ⊢
    have hfree₁ : t₁.entryAt? (place ++ [last]) ≠ some .directory := by
      rw [hn₁]
      exact (Option.some_ne_none _).symm
    exact entryAt?_put_leaf hplace hfree₁ (fun _ _ => rfl) hother
  have hparent : (⟨0, names ++ [name]⟩ : Path).parent = ⟨0, names⟩ := by
    rw [Path.parent, List.dropLast_concat]
  refine ⟨t₁.put (ofNames (names ++ [name])) (.file bytes), ?_, ?_, ?_, ?_⟩
  · unfold store
    rw [hparent]
    exact hs₁.bind (succeeds_ofStep (write_eq_ok hw hpass hn₁))
  · rw [he]
    exact entryAt?_put_self hplace
  · intro other hv
    have hother : other ≠ ofNames (names ++ [name]) := by
      rintro rfl
      exact hnew hv
    rw [helse other hother]
    exact hm.visited other hv
  · intro other hother hv
    rw [helse other hother, hm.elsewhere other hv]

/-! ### Removal -/

theorem clearDirectory_eq_ok (hw : Walkable names)
    (hd : ∀ place, Passes names place → t.entryAt? place = some .directory)
    (hdir : t.entryAt? (ofNames names) = some .directory) :
    t.clearDirectory ⟨0, names⟩ = .ok (t.put (ofNames names) empty) := by
  obtain ⟨entries, he⟩ := entryAt?_eq_directory.1 hdir
  unfold clearDirectory
  rw [locate_eq_ok hw hd]
  rw [Outcome.ok_bind, he]
  rfl

theorem removeDirectory_eq_ok (hw : Walkable names)
    (hd : ∀ place, Passes names place → t.entryAt? place = some .directory)
    (hdir : t.entryAt? (ofNames names) = some .directory) (hne : ofNames names ≠ []) :
    t.removeDirectory ⟨0, names⟩ = .ok (t.erase (ofNames names)) := by
  obtain ⟨entries, he⟩ := entryAt?_eq_directory.1 hdir
  unfold removeDirectory
  rw [locate_eq_ok hw hd]
  rw [Outcome.ok_bind, he]
  dsimp only
  rw [if_neg hne]
  rfl

/-- A directory is removed with all that is in it, unless the way to it leads through it. -/
theorem succeeds_removeTree (hw : Walkable names)
    (hd : ∀ place, Passes names place → t.entryAt? place = some .directory)
    (hdir : t.entryAt? (ofNames names) = some .directory) (hne : ofNames names ≠ [])
    (hout : ∀ place, Passes names place → ¬ ofNames names <+: place) :
    ∃ t', Succeeds (removeTree ⟨0, names⟩) t () t' ∧
      t'.entryAt? (ofNames names) = none ∧
      ∀ place, ¬ ofNames names <+: place → t'.entryAt? place = t.entryAt? place := by
  obtain ⟨above, name, he⟩ : ∃ above name, ofNames names = above ++ [name] :=
    ⟨_, _, (List.dropLast_concat_getLast hne).symm⟩
  have habove : t.entryAt? above = some .directory := by
    rw [he] at hdir
    apply entryAt?_of_append (List.cons_ne_nil name [])
    rw [hdir]
    exact Option.some_ne_none _
  have hcleared : (t.put (ofNames names) empty).entryAt? (ofNames names) = some .directory := by
    rw [he]
    exact entryAt?_put_self habove
  have helse : ∀ place, ¬ ofNames names <+: place →
      (t.put (ofNames names) empty).entryAt? place = t.entryAt? place := by
    intro place hn
    rw [he] at hn ⊢
    exact entryAt?_put_elsewhere habove hn
  -- the cleared directory is removed by the same path, so the way to it must have stayed
  have hpass : ∀ place, Passes names place →
      (t.put (ofNames names) empty).entryAt? place = some .directory := by
    intro place hp
    rw [helse place (hout place hp)]
    exact hd place hp
  refine ⟨(t.put (ofNames names) empty).erase (ofNames names), ?_, entryAt?_erase_self hne, ?_⟩
  · exact (succeeds_ofStep (clearDirectory_eq_ok hw hd hdir)).bind
      (succeeds_ofStep (removeDirectory_eq_ok hw hpass hcleared hne))
  · intro place hn
    rw [entryAt?_erase_elsewhere hn, helse place hn]

end Action
end ApiScribe.FileTree
