import Mathlib.Data.List.Nodup
import ApiScribe.Generation.Output
import ApiScribe.Outcome

/-!
# Where files go

The check of the destinations goes through the files one by one and compares each with those before
it.  `destinations_eq_ok` says what it comes to: each file has the place below the output directory
that its filename names, and no two of them are the same.
-/

namespace ApiScribe

namespace TargetFiles

/-- The destination is what the filename of its file names below the directory. -/
def Destination.Named (directory : Path) (d : Destination) : Prop :=
  ∃ names, inside? d.file.filename = some names ∧ d.path = directory.below names

variable {directory : Path}

/-- The names that lead to a file are some, and do not lead upwards. -/
theorem inside?_eq_some {filename : String} {names : List String}
    (h : inside? filename = some names) : names ≠ [] ∧ Path.up ∉ names := by
  unfold inside? at h
  dsimp only at h
  split at h
  · cases h
  · next hn =>
    cases h
    simp only [Bool.or_eq_true, List.contains_iff_mem, List.isEmpty_iff, not_or] at hn
    exact ⟨hn.2, hn.1.2⟩

/-- A destination is found for a path exactly if the path is claimed. -/
theorem find?_path_eq_none_iff {claimed : List Destination} {path : Path} :
    claimed.find? (·.path == path) = none ↔ path ∉ claimed.map Destination.path := by
  simp [List.find?_eq_none]

/-- Paths that are all different stay so with a further one exactly if it is not among them. -/
theorem nodup_append_destination {claimed : List Destination} {d : Destination} :
    ((claimed ++ [d]).map Destination.path).Nodup ↔
      (claimed.map Destination.path).Nodup ∧ d.path ∉ claimed.map Destination.path := by
  rw [List.map_append, List.map_singleton, ← List.concat_eq_append, List.nodup_concat, and_comm]

theorem addDestination_eq_ok {claimed claimed' : List Destination} {file : TargetFile} :
    addDestination directory claimed file = .ok claimed' ↔
      ∃ d : Destination, d.file = file ∧ d.Named directory ∧
        d.path ∉ claimed.map Destination.path ∧ claimed' = claimed ++ [d] := by
  unfold addDestination
  split
  · next hn =>
    refine iff_of_false (fun h => nomatch h) ?_
    rintro ⟨d, rfl, ⟨names, hi, -⟩, -⟩
    rw [hn] at hi
    cases hi
  · next names hi =>
    -- the filename leaves no other destination than this one
    have hd {d : Destination} (hfile : d.file = file) (hnamed : d.Named directory) :
        d = ⟨directory.below names, file⟩ := by
      obtain ⟨names', hi', hp⟩ := hnamed
      rw [hfile, hi, Option.some.injEq] at hi'
      rw [← hi'] at hp
      rw [← hp, ← hfile]
    split
    · next other ho =>
      refine iff_of_false (fun h => nomatch h) ?_
      rintro ⟨d, hfile, hnamed, hfree, -⟩
      rw [hd hfile hnamed, ← find?_path_eq_none_iff, ho] at hfree
      cases hfree
    · next hfree =>
      rw [find?_path_eq_none_iff] at hfree
      constructor
      · intro h
        cases h
        exact ⟨⟨directory.below names, file⟩, rfl, ⟨names, hi, rfl⟩, hfree, rfl⟩
      · rintro ⟨d, hfile, hnamed, -, rfl⟩
        rw [hd hfile hnamed]

/-- More destinations are found exactly when each is named by its file and all stay distinct. -/
theorem foldlM_addDestination_eq_ok {claimed ds : List Destination} {files : List TargetFile}
    (hd : (claimed.map Destination.path).Nodup) :
    files.foldlM (addDestination directory) claimed = .ok ds ↔
      ∃ more, ds = claimed ++ more ∧ more.map Destination.file = files ∧
        (∀ d ∈ more, d.Named directory) ∧ (ds.map Destination.path).Nodup := by
  induction files generalizing claimed with
  | nil =>
    constructor
    · intro h
      cases h
      exact ⟨[], (List.append_nil _).symm, rfl, List.forall_mem_nil _, hd⟩
    · rintro ⟨more, rfl, hm, -, -⟩
      obtain rfl := List.map_eq_nil_iff.1 hm
      rw [List.append_nil]
      rfl
  | cons file files ih =>
    rw [List.foldlM_cons, Outcome.bind_eq_ok]
    constructor
    · rintro ⟨claimed', h, hrest⟩
      obtain ⟨d, rfl, hnamed, hfree, rfl⟩ := addDestination_eq_ok.1 h
      have hd' := nodup_append_destination.2 ⟨hd, hfree⟩
      obtain ⟨more, rfl, rfl, hmore, hnodup⟩ := (ih hd').1 hrest
      refine ⟨d :: more, List.append_assoc _ _ _, rfl, ?_, hnodup⟩
      exact List.forall_mem_cons.2 ⟨hnamed, hmore⟩
    · rintro ⟨more, rfl, hm, hmore, hnodup⟩
      cases more with
      | nil => cases hm
      | cons d more =>
        rw [List.map_cons, List.cons.injEq] at hm
        obtain ⟨hnamed, hmore⟩ := List.forall_mem_cons.1 hmore
        -- the first of the further destinations is free, since all are distinct in the end
        have hsplit : claimed ++ d :: more = claimed ++ [d] ++ more := by
          rw [List.append_assoc, List.singleton_append]
        have hd' : ((claimed ++ [d]).map Destination.path).Nodup := by
          rw [hsplit, List.map_append, List.nodup_append] at hnodup
          exact hnodup.1
        have hfirst : addDestination directory claimed file = .ok (claimed ++ [d]) :=
          addDestination_eq_ok.2 ⟨d, hm.1, hnamed, (nodup_append_destination.1 hd').2, rfl⟩
        exact ⟨_, hfirst, (ih hd').2 ⟨more, hsplit, hm.2, hmore, hnodup⟩⟩

/-- Without destinations before, those of the files are found if each is named by its file and all
are distinct. -/
theorem foldlM_addDestination_nil_eq_ok {files : List TargetFile} {ds : List Destination} :
    files.foldlM (addDestination directory) [] = .ok ds ↔
      ds.map Destination.file = files ∧ (∀ d ∈ ds, d.Named directory) ∧
        (ds.map Destination.path).Nodup := by
  have hnil : (([] : List Destination).map Destination.path).Nodup := List.nodup_nil
  rw [foldlM_addDestination_eq_ok hnil]
  constructor
  · rintro ⟨more, rfl, hm, hmore, hnodup⟩
    exact ⟨hm, hmore, hnodup⟩
  · rintro ⟨hm, hmore, hnodup⟩
    exact ⟨ds, rfl, hm, hmore, hnodup⟩

/-- The destinations of files are those that their filenames name, one for each file in order, if
they are distinct. -/
theorem destinations_eq_ok {files : TargetFiles} {ds : List Destination} :
    files.destinations directory = .ok ds ↔
      ds.map Destination.file = files.toList ∧ (∀ d ∈ ds, d.Named directory) ∧
        (ds.map Destination.path).Nodup :=
  foldlM_addDestination_nil_eq_ok

end TargetFiles
end ApiScribe
