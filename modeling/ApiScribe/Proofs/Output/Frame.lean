import ApiScribe.Proofs.FileTree.Endings
import ApiScribe.Proofs.Output.Destinations

/-!
# What writing leaves alone

However the writing of generated files ends, nothing has changed but what is at the output directory
and below it, and directories that the path to it passes and that were not there (`Framed`).  Each
single operation keeps this: a directory is made on the way or below, a file is written below, and
what is removed is the directory (`writeTree_framed`).  Nothing is asked of the path: it may lead
upwards, out of the tree, or through the directory itself.
-/

namespace ApiScribe

open FileTree (Entry)
open FileTree.Action (Holds HoldsOnce)
open Place (ofNames Visits Passes)

/-! ### Removing a directory -/

namespace FileTree

variable {t t' : FileTree} {p : Path} {place : Place}

/-- What is neither at the end of the path nor below it stays when a directory is emptied. -/
theorem entryAt?_of_clearDirectory (h : t.clearDirectory p = .ok t')
    (hn : ¬ ofNames p.names <+: place) : t'.entryAt? place = t.entryAt? place := by
  unfold clearDirectory at h
  obtain ⟨found, hp, h⟩ := Outcome.bind_eq_ok.1 h
  obtain rfl := eq_ofNames_of_locate hp
  split at h
  · next entries he =>
    cases h
    rcases List.eq_nil_or_concat (ofNames p.names) with hnil | ⟨above, name, hc⟩
    · rw [hnil] at hn
      exact absurd List.nil_prefix hn
    · rw [List.concat_eq_append] at hc
      have hsome : t.entryAt? (above ++ [name]) ≠ none := by
        rw [← hc, Ne, entryAt?_eq_none, he]
        exact Option.some_ne_none _
      have habove := entryAt?_of_append (List.cons_ne_nil name []) hsome
      rw [hc] at hn ⊢
      exact entryAt?_put_elsewhere habove hn
  · cases h
  · cases h

/-- What is neither at the end of the path nor below it stays when a directory is removed. -/
theorem entryAt?_of_removeDirectory (h : t.removeDirectory p = .ok t')
    (hn : ¬ ofNames p.names <+: place) : t'.entryAt? place = t.entryAt? place := by
  unfold removeDirectory at h
  obtain ⟨found, hp, h⟩ := Outcome.bind_eq_ok.1 h
  obtain rfl := eq_ofNames_of_locate hp
  split at h
  · cases h
  · cases h
  · split at h
    · cases h
    · cases h
      exact entryAt?_erase_elsewhere hn

end FileTree

namespace TargetFiles

variable {directory : Path} {t t₁ t₂ : FileTree}

/-- Nothing has changed outside of the directory but that directories were made, where nothing was,
on the way to it. -/
def Framed (t : FileTree) (directory : Path) (t' : FileTree) : Prop :=
  ∀ place, ¬ ofNames directory.names <+: place →
    t'.entryAt? place = t.entryAt? place ∨
      Passes directory.names place ∧ t.entryAt? place = none ∧
        t'.entryAt? place = some .directory

theorem framed_self : Framed t directory t := fun _ _ => .inl rfl

/-- A change at the directory or below it. -/
theorem Framed.below (h : Framed t directory t₁)
    (he : ∀ place, ¬ ofNames directory.names <+: place → t₂.entryAt? place = t₁.entryAt? place) :
    Framed t directory t₂ := by
  intro place hn
  rw [he place hn]
  exact h place hn

theorem Framed.laid_below (h : Framed t directory t₁) {names : List String} {leaf : Entry}
    (hl : FileTree.Laid t₁ (ofNames directory.names ++ names) leaf t₂) :
    Framed t directory t₂ := by
  apply h.below
  intro place hn
  apply hl.elsewhere
  rintro rfl
  exact hn (List.prefix_append _ _)

/-- A directory that is made on the way, where nothing is. -/
theorem Framed.laid_way (h : Framed t directory t₁) {place : Place}
    (hv : Visits directory.names place) (hnone : t₁.entryAt? place = none)
    (hl : FileTree.Laid t₁ place .directory t₂) : Framed t directory t₂ := by
  intro other hn
  by_cases he : other = place
  · subst he
    have hbefore : t.entryAt? other = none := by
      rcases h other hn with hsame | ⟨-, hnone', -⟩
      · exact hsame.symm.trans hnone
      · exact hnone'
    rcases Place.visits_iff.1 hv with hp | rfl
    · exact .inr ⟨hp, hbefore, hl.here⟩
    · exact absurd (List.prefix_refl _) hn
  · rw [hl.elsewhere other he]
    exact h other hn

/-! ### Single operations -/

theorem framed_makeDirectory_way {part : List String} (hp : part <+: directory.names) :
    HoldsOnce (Framed t directory) (fun _ => True)
      fun t => t.makeDirectory ⟨directory.slashes, part⟩ := by
  intro t₁ h
  refine ⟨?_, fun _ _ => trivial⟩
  intro t₂ hmade
  obtain ⟨hnone, hlaid⟩ := FileTree.laid_of_makeDirectory hmade
  exact h.laid_way ⟨part, hp, rfl⟩ hnone hlaid

theorem framed_makeDirectory_below {names : List String} (hup : Path.up ∉ names) :
    HoldsOnce (Framed t directory) (fun _ => True)
      fun t => t.makeDirectory ⟨directory.slashes, directory.names ++ names⟩ := by
  intro t₁ h
  refine ⟨?_, fun _ _ => trivial⟩
  intro t₂ hmade
  obtain ⟨-, hlaid⟩ := FileTree.laid_of_makeDirectory hmade
  have hplace := Place.ofNames_append directory.names hup
  exact h.laid_below (hplace ▸ hlaid)

/-! ### The writing of files -/

theorem framed_removeTree :
    Holds (Framed t directory) (fun _ => True) (FileTree.Action.removeTree directory) := by
  have hclear : HoldsOnce (Framed t directory) (fun _ => True)
      fun t => t.clearDirectory directory := fun t₁ h =>
    ⟨fun t₂ hc => h.below fun _ hn => FileTree.entryAt?_of_clearDirectory hc hn,
      fun _ _ => trivial⟩
  have hremove : HoldsOnce (Framed t directory) (fun _ => True)
      fun t => t.removeDirectory directory := fun t₁ h =>
    ⟨fun t₂ hr => h.below fun _ hn => FileTree.entryAt?_of_removeDirectory hr hn,
      fun _ _ => trivial⟩
  exact (FileTree.Action.holds_ofStep hclear).bind fun _ => FileTree.Action.holds_ofStep hremove

theorem framed_recreate : Holds (Framed t directory) (fun _ => True) (recreate directory) := by
  have hmake : Holds (Framed t directory) (fun _ => True)
      (FileTree.Action.makeDirectories false directory) :=
    FileTree.Action.holds_makeDirectories fun _ hp => framed_makeDirectory_way hp
  intro t₁ h
  unfold recreate
  rw [FileTree.Action.holdsAt_get_bind]
  split
  · exact FileTree.Action.holdsAt_throw h trivial
  · next found _ =>
    cases found with
    | true => exact (framed_removeTree.bind fun _ => hmake) t₁ h
    | false => exact hmake t₁ h

/-- A file is stored below the directory; the directories above it are on the way to the directory
or below it as well. -/
theorem framed_store {names : List String} {bytes : List UInt8} (hup : Path.up ∉ names) :
    Holds (Framed t directory) (fun _ => True)
      (FileTree.Action.store (directory.below names) bytes) := by
  apply FileTree.Action.holds_store
  · intro part hp
    replace hp : part <+: directory.names ++ names := hp.trans (List.dropLast_prefix _)
    -- what is made is on the way to the directory, or begins with the whole way
    rcases List.prefix_or_prefix_of_prefix hp (List.prefix_append directory.names names) with
      hway | ⟨below, rfl⟩
    · exact framed_makeDirectory_way hway
    · rw [List.prefix_append_right_inj] at hp
      exact framed_makeDirectory_below fun hm => hup (hp.subset hm)
  · intro t₁ h
    refine ⟨?_, fun _ _ => trivial⟩
    intro t₂ hw
    obtain ⟨-, hlaid⟩ := FileTree.laid_of_write hw
    rw [Path.names_below, Place.ofNames_append directory.names hup] at hlaid
    exact h.laid_below hlaid

theorem framed_writeEach {ds : List Destination} (hnamed : ∀ d ∈ ds, d.Named directory) :
    Holds (Framed t directory) (fun _ => True) (writeEach ds) := by
  induction ds with
  | nil => exact fun t₁ h => FileTree.Action.holdsAt_pure h
  | cons d ds ih =>
    have hfirst : Holds (Framed t directory) (fun _ => True) (writeTo d) := by
      obtain ⟨names, hinside, hpath⟩ := hnamed d List.mem_cons_self
      unfold writeTo
      rw [hpath]
      exact framed_store (inside?_eq_some hinside).2
    exact hfirst.bind fun _ => ih fun d hd => hnamed d (List.mem_cons_of_mem _ hd)

/-- However the writing of files ends, what is outside of the directory is as before, except that
directories that were missing on the way to it may have been made. -/
theorem writeTree_framed {files : TargetFiles} :
    Framed t directory (files.writeTree directory t).2 := by
  unfold writeTree
  split
  · exact framed_self
  · next ds hds =>
    have hnamed := (destinations_eq_ok.1 hds).2.1
    have hkept := ((framed_recreate.bind fun _ => framed_writeEach hnamed) t framed_self).1
    split <;> next hrun =>
      rw [hrun] at hkept
      exact hkept

end TargetFiles
end ApiScribe
