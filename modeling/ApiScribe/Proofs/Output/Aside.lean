import ApiScribe.Proofs.FileTree.Aside
import ApiScribe.Proofs.Output.Destinations

/-!
# A leaf apart from the output directory

Writing generated files does not depend on a leaf outside of the output directory
(`writeTree_of_laid`): with and without it the outcome is the same, and so are the files that are
left, the leaf itself apart.
-/

namespace ApiScribe

open FileTree (Entry Laid)
open FileTree.Action (Indifferent agree_get_bind indifferent_makeDirectories indifferent_pure
  indifferent_removeTree indifferent_store indifferent_throw)
open Place (ofNames Visits)

variable {t t' : FileTree} {directory : Path} {place : Place} {leaf : Entry}

/-- The place is not in the directory at the end of a path, and the path leads neither to it nor
through it.  An absolute path leads out of the tree. -/
def Path.Apart (p : Path) (place : Place) : Prop :=
  p.isAbsolute = true ∨ ¬ Visits p.names place ∧ ¬ ofNames p.names <+: place

theorem Path.Apart.avoids (h : directory.Apart place) : directory.Avoids place := h.imp id And.left

/-- No path to a file below the directory leads to the place. -/
theorem Path.Apart.avoids_below (h : directory.Apart place) {names : List String}
    (hup : Path.up ∉ names) : (directory.below names).Avoids place := by
  rcases h with habsolute | ⟨hvisits, hout⟩
  · exact .inl habsolute
  · refine .inr fun hv => ?_
    rw [Path.names_below, Place.visits_append hup] at hv
    rcases hv with hv | ⟨part, -, rfl⟩
    · exact hvisits hv
    · exact hout (List.prefix_append _ _)

/-- Where a path to the directory leads, the place is not below. -/
theorem Path.Apart.not_below (h : directory.Apart place) {q : Place}
    (hq : t.locate directory = .ok q) : ¬ q <+: place := by
  rcases h with habsolute | ⟨-, hout⟩
  · rw [FileTree.isAbsolute_of_locate hq] at habsolute
    cases habsolute
  · rw [FileTree.eq_ofNames_of_locate hq]
    exact hout

namespace TargetFiles

theorem indifferent_recreate (h : directory.Apart place) :
    Indifferent place leaf (recreate directory) := by
  intro t t' hlaid
  have hmake : Indifferent place leaf (FileTree.Action.makeDirectories false directory) :=
    indifferent_makeDirectories h.avoids
  unfold recreate
  rw [agree_get_bind, hlaid.hasEntry_eq h.avoids]
  split
  · exact indifferent_throw _ t t' hlaid
  · next found _ =>
    cases found with
    | false => exact hmake t t' hlaid
    | true =>
      have hremove : Indifferent place leaf (FileTree.Action.removeTree directory) :=
        indifferent_removeTree h.avoids fun t q hq => h.not_below hq
      exact (hremove.bind fun _ => hmake) t t' hlaid

theorem indifferent_writeEach (h : directory.Apart place) {ds : List Destination}
    (hnamed : ∀ d ∈ ds, d.Named directory) : Indifferent place leaf (writeEach ds) := by
  induction ds with
  | nil => exact indifferent_pure ()
  | cons d ds ih =>
    obtain ⟨⟨names, hi, hd⟩, hds⟩ := List.forall_mem_cons.1 hnamed
    have hpath : d.path.Avoids place := by
      rw [hd]
      exact h.avoids_below (inside?_eq_some hi).2
    exact (indifferent_store hpath).bind fun _ => ih hds

/-- The files are written in the same way with and without the leaf. -/
theorem writeTree_of_laid (files : TargetFiles) (h : directory.Apart place)
    (hlaid : Laid t place leaf t') :
    (files.writeTree directory t').1 = (files.writeTree directory t).1 ∧
      Laid (files.writeTree directory t).2 place leaf (files.writeTree directory t').2 := by
  unfold writeTree
  cases hd : files.destinations directory with
  | error e => exact ⟨rfl, hlaid⟩
  | ok ds =>
    have hnamed := (destinations_eq_ok.1 hd).2.1
    have hall : Indifferent place leaf (recreate directory >>= fun _ => writeEach ds) :=
      (indifferent_recreate h).bind fun _ => indifferent_writeEach h hnamed
    obtain ⟨houtcome, hlaid'⟩ := hall t t' hlaid
    dsimp only
    rcases hr : (recreate directory >>= fun _ => writeEach ds).run.run t with ⟨outcome, t₁⟩
    rcases hr' : (recreate directory >>= fun _ => writeEach ds).run.run t' with ⟨outcome', t₁'⟩
    rw [hr, hr'] at houtcome hlaid'
    obtain rfl : outcome' = outcome := houtcome
    cases outcome' <;> exact ⟨rfl, hlaid'⟩

end TargetFiles
end ApiScribe
