import ApiScribe.Proofs.Output.Writing

/-!
# The output directory after a run

A run succeeds and keeps the invariant of the loop to its end (`exists_writeTree`).  From there on
it is read off what the run leaves: the files (`Written.file_iff`), their directories
(`Written.directory_iff`), the rest of the tree (`Written.elsewhere`).  What the directory held
before plays no part in it, so a second run changes nothing (`Written.again`).

A path that leads through the directory itself, as `out/sub/..` does, is not covered, and cannot be:
once the directory is removed the path leads nowhere.
-/

namespace ApiScribe.TargetFiles

open Place (ofNames Visits Passes)

/-- No file is where another one needs a directory. -/
def Compatible (files : TargetFiles) : Prop :=
  ∀ file ∈ files.toList, ∀ other ∈ files.toList, ∀ names below,
    inside? file.filename = some names → inside? other.filename = some (names ++ below) → below = []

variable {files : TargetFiles} {directory : Path} {ds : List Destination} {t : FileTree}

/-- Compatible files with destinations of their own are apart from each other. -/
theorem Compatible.pairwise_apart (h : files.Compatible)
    (hds : files.destinations directory = .ok ds) :
    (files.toList.map TargetFile.part).Pairwise Part.Apart := by
  obtain ⟨hfiles, hnamed, hnodup⟩ := destinations_eq_ok.1 hds
  rw [← hfiles, List.map_map, List.pairwise_map]
  -- if one file were at the place of the other or above it, both would be at the same place
  have hapart : ∀ d ∈ ds, ∀ e ∈ ds, d.path ≠ e.path → ¬ d.file.part.1 <+: e.file.part.1 := by
    rintro d hd e he hne ⟨below, hb⟩
    obtain ⟨names, hi, hp⟩ := hnamed d hd
    obtain ⟨names', hi', hp'⟩ := hnamed e he
    rw [TargetFile.part, TargetFile.part, hi, hi'] at hb
    obtain rfl : names ++ below = names' := hb
    have hfile : ∀ d ∈ ds, d.file ∈ files.toList :=
      fun d hd => hfiles ▸ List.mem_map.2 ⟨d, hd, rfl⟩
    obtain rfl := h _ (hfile d hd) _ (hfile e he) names below hi hi'
    rw [List.append_nil] at hp'
    exact hne (hp.trans hp'.symm)
  rw [List.Nodup, List.pairwise_map] at hnodup
  apply hnodup.imp_of_mem
  intro d e hd he hne
  exact ⟨hapart d hd e he hne, hapart e he d hd hne.symm⟩

/-- A run succeeds, and leaves what the files make of the directory. -/
theorem exists_writeTree (hds : files.destinations directory = .ok ds)
    (hdir : Recreatable t directory) (hcompatible : files.Compatible)
    (haccepted : ∀ d ∈ ds, d.path.Accepted) :
    ∃ t', files.writeTree directory t = (.ok (ds.map Destination.path), t') ∧
      Written t directory (files.toList.map TargetFile.part) t' := by
  obtain ⟨hfiles, hnamed, -⟩ := destinations_eq_ok.1 hds
  have hparts : ds.map (fun d => d.file.part) = files.toList.map TargetFile.part := by
    rw [← hfiles, List.map_map]
    rfl
  have hapart := hcompatible.pairwise_apart hds
  rw [← hparts] at hapart ⊢
  obtain ⟨t₁, hs₁, hw₁⟩ := exists_recreated hdir
  obtain ⟨t', hs, hw⟩ := exists_written hdir hnamed haccepted hapart hw₁
  refine ⟨t', ?_, hw⟩
  have hrun : FileTree.Action.Succeeds (do recreate directory; writeEach ds) t () t' :=
    hs₁.bind hs
  unfold FileTree.Action.Succeeds at hrun
  unfold writeTree
  rw [hds]
  dsimp only
  rw [hrun]

/-! ### What is there afterwards -/

/-- A directory that was written can be made anew. -/
theorem Recreatable.of_written {parts : List Part} {t' : FileTree} (h : Recreatable t directory)
    (hw : Written t directory parts t') : Recreatable t' directory where
  relative := h.relative
  walkable := h.walkable
  below := h.below
  around := h.around
  free := .inl (hw.way _ (Place.visits_iff.2 (.inr rfl)))
  way place hp := .inl (hw.way place (Place.visits_iff.2 (.inl hp)))

/-- A file of the collection has names. -/
theorem inside?_of_mem (hds : files.destinations directory = .ok ds) {file : TargetFile}
    (hf : file ∈ files.toList) : inside? file.filename = some file.part.1 := by
  obtain ⟨hfiles, hnamed, -⟩ := destinations_eq_ok.1 hds
  rw [← hfiles] at hf
  obtain ⟨d, hd, rfl⟩ := List.mem_map.1 hf
  obtain ⟨names, hi, -⟩ := hnamed d hd
  rw [TargetFile.part, hi]
  rfl

section
variable {t' : FileTree} (hds : files.destinations directory = .ok ds)
  (hcompatible : files.Compatible)
  (hw : Written t directory (files.toList.map TargetFile.part) t')

include hds hcompatible hw

theorem Written.file_iff {names : List String} {bytes : List UInt8} :
    t'.entryAt? (ofNames directory.names ++ names) = some (.file bytes) ↔
      ∃ file ∈ files.toList, inside? file.filename = some names ∧
        bytes = Text.encodeUtf8 file.content.toList := by
  rw [hw.inside, Part.laidOut_eq_file (hcompatible.pairwise_apart hds), List.mem_map]
  constructor
  · rintro ⟨file, hf, he⟩
    refine ⟨file, hf, ?_, ?_⟩
    · rw [inside?_of_mem hds hf, he]
    · exact congrArg Prod.snd he.symm
  · rintro ⟨file, hf, hi, rfl⟩
    refine ⟨file, hf, ?_⟩
    rw [TargetFile.part, hi]
    rfl

theorem Written.directory_iff {names : List String} :
    t'.entryAt? (ofNames directory.names ++ names) = some .directory ↔
      names = [] ∨ ∃ file ∈ files.toList, ∃ below, below ≠ [] ∧
        inside? file.filename = some (names ++ below) := by
  have hne : ∀ p ∈ files.toList.map TargetFile.part, p.1 ≠ [] := by
    intro p hp
    obtain ⟨file, hf, rfl⟩ := List.mem_map.1 hp
    exact (inside?_eq_some (inside?_of_mem hds hf)).1
  rw [hw.inside, Part.laidOut_eq_directory (hcompatible.pairwise_apart hds) hne]
  constructor
  · rintro (hnil | ⟨p, hp, below, hb, he⟩)
    · exact .inl hnil
    · obtain ⟨file, hf, rfl⟩ := List.mem_map.1 hp
      exact .inr ⟨file, hf, below, hb, he ▸ inside?_of_mem hds hf⟩
  · rintro (hnil | ⟨file, hf, below, hb, hi⟩)
    · exact .inl hnil
    · refine .inr ⟨file.part, List.mem_map.2 ⟨file, hf, rfl⟩, below, hb, ?_⟩
      exact Option.some.inj ((inside?_of_mem hds hf).symm.trans hi)

end

/-- Outside of the directory nothing changes but that the way to it is made. -/
theorem Written.elsewhere {parts : List Part} {t' : FileTree} (h : Recreatable t directory)
    (hw : Written t directory parts t') {place : Place}
    (hn : ¬ ofNames directory.names <+: place) :
    t'.entryAt? place = t.entryAt? place ∨ Passes directory.names place ∧
      t.entryAt? place = none ∧ t'.entryAt? place = some .directory := by
  by_cases hv : Visits directory.names place
  · rcases Place.visits_iff.1 hv with hp | rfl
    · rcases h.way place hp with hd | ⟨hnone, -⟩
      · exact .inl ((hw.way place hv).trans hd.symm)
      · exact .inr ⟨hp, hnone, hw.way place hv⟩
    · exact absurd (List.prefix_refl _) hn
  · exact .inl (hw.outside place hv hn)

/-- Writing the same files again changes nothing. -/
theorem Written.again {parts : List Part} {t' t'' : FileTree}
    (hw : Written t directory parts t') (hw' : Written t' directory parts t'') (place : Place) :
    t''.entryAt? place = t'.entryAt? place := by
  by_cases hp : ofNames directory.names <+: place
  · obtain ⟨names, rfl⟩ := hp
    rw [hw.inside, hw'.inside]
  · by_cases hv : Visits directory.names place
    · rw [hw.way place hv, hw'.way place hv]
    · exact hw'.outside place hv hp

/-- What a run leaves, for files with destinations that the operating system accepts, none of which
is where another one needs a directory.

The run succeeds with the destinations in the order of the files.  Below the directory there is
then one file for each file of the collection, at the names of its filename and with its text in
UTF-8, and there are the directories that these files need, and nothing else.  Elsewhere nothing has
changed but that directories on the way are there now if they were missing.  Below the directory
the tree is the same whatever was there before, and a second run changes nothing. -/
theorem writeTree_recreates (hds : files.destinations directory = .ok ds)
    (hdir : Recreatable t directory) (hcompatible : files.Compatible)
    (haccepted : ∀ d ∈ ds, d.path.Accepted) :
    ∃ t', files.writeTree directory t = (.ok (ds.map Destination.path), t') ∧
      (ds.map Destination.file = files.toList ∧
        ∀ d ∈ ds, ∃ names, inside? d.file.filename = some names ∧ d.path = directory.below names) ∧
      (∀ names bytes, t'.entryAt? (ofNames directory.names ++ names) = some (.file bytes) ↔
        ∃ file ∈ files.toList, inside? file.filename = some names ∧
          bytes = Text.encodeUtf8 file.content.toList) ∧
      (∀ names, t'.entryAt? (ofNames directory.names ++ names) = some .directory ↔
        names = [] ∨ ∃ file ∈ files.toList, ∃ below, below ≠ [] ∧
          inside? file.filename = some (names ++ below)) ∧
      (∀ place, ¬ ofNames directory.names <+: place →
        t'.entryAt? place = t.entryAt? place ∨ Passes directory.names place ∧
          t.entryAt? place = none ∧ t'.entryAt? place = some .directory) ∧
      (∀ u, Recreatable u directory → ∀ names,
        (files.writeTree directory u).2.entryAt? (ofNames directory.names ++ names) =
          t'.entryAt? (ofNames directory.names ++ names)) ∧
      ∃ t'', files.writeTree directory t' = (.ok (ds.map Destination.path), t'') ∧
        ∀ place, t''.entryAt? place = t'.entryAt? place := by
  obtain ⟨hfiles, hnamed, -⟩ := destinations_eq_ok.1 hds
  obtain ⟨t', hrun, hw⟩ := exists_writeTree hds hdir hcompatible haccepted
  refine ⟨t', hrun, ⟨hfiles, hnamed⟩, ?_, ?_, ?_, ?_, ?_⟩
  · intro names bytes
    exact hw.file_iff hds hcompatible
  · intro names
    exact hw.directory_iff hds hcompatible
  · intro place hn
    exact hw.elsewhere hdir hn
  · intro u hu names
    obtain ⟨u', hrun', hw'⟩ := exists_writeTree hds hu hcompatible haccepted
    rw [hrun', hw.inside]
    exact hw'.inside names
  · obtain ⟨t'', hrun', hw'⟩ :=
      exists_writeTree hds (hdir.of_written hw) hcompatible haccepted
    exact ⟨t'', hrun', hw.again hw'⟩

/-- Two files, one of them in a directory. -/
def sampleFiles : TargetFiles := ⟨[⟨"a.txt", "1"⟩, ⟨"b/c.txt", "2"⟩], by decide⟩

/-- The directory of the run is there and holds an old file. -/
def sampleTree : FileTree := .directory [("out", .directory [("old.txt", .file [48])])]

theorem sampleTree_recreatable : Recreatable sampleTree ⟨0, ["out"]⟩ := by
  have hpass : ∀ place, Passes ["out"] place → place = [] :=
    fun place hp => Place.visits_nil.1 (Place.passes_concat.1 hp)
  refine ⟨rfl, ⟨⟨by decide, by decide, by decide⟩, ?_⟩, by decide, ?_, by decide, ?_⟩
  · intro above hp
    have hup : Path.up ∈ ["out"] := hp.subset (List.mem_append_right _ List.mem_cons_self)
    exact absurd hup (by decide)
  · intro place hp
    rw [hpass place hp]
    decide
  · intro place hp
    rw [hpass place hp]
    exact .inl rfl

/-- The new files are there in place of the old one. -/
theorem writeTree_recreates_sample :
    ∃ t', sampleFiles.writeTree ⟨0, ["out"]⟩ sampleTree =
        (.ok [⟨0, ["out", "a.txt"]⟩, ⟨0, ["out", "b", "c.txt"]⟩], t') ∧
      t'.entryAt? ["out", "b", "c.txt"] = some (.file [50]) ∧
      t'.entryAt? ["out", "old.txt"] ≠ some (.file [48]) := by
  have hds : sampleFiles.destinations ⟨0, ["out"]⟩ = .ok
      [⟨⟨0, ["out", "a.txt"]⟩, ⟨"a.txt", "1"⟩⟩,
        ⟨⟨0, ["out", "b", "c.txt"]⟩, ⟨"b/c.txt", "2"⟩⟩] := rfl
  have hcompatible : sampleFiles.Compatible := by
    have hnames : ∀ file ∈ sampleFiles.toList,
        inside? file.filename = some ["a.txt"] ∨ inside? file.filename = some ["b", "c.txt"] := by
      decide
    intro file hf other ho names below hi hj
    rcases hnames file hf with h | h <;> rcases hnames other ho with h' | h' <;> grind
  obtain ⟨t', hrun, -, hfile, -⟩ := writeTree_recreates hds sampleTree_recreatable hcompatible (by
    intro d hd
    rcases List.mem_cons.1 hd with rfl | hd
    · exact ⟨by decide, by decide, by decide⟩
    · rw [List.mem_singleton.1 hd]
      exact ⟨by decide, by decide, by decide⟩)
  refine ⟨t', hrun, (hfile ["b", "c.txt"] [50]).2 ⟨⟨"b/c.txt", "2"⟩, by decide, rfl, rfl⟩, ?_⟩
  intro hold
  obtain ⟨file, hf, hi, -⟩ := (hfile ["old.txt"] [48]).1 hold
  revert file
  decide

/-! ### Paths through the directory itself -/

/-- The path `out/sub/..` leads to the directory `out`, which is there, and the file has a
destination.  But the run removes `out/sub` and is then refused: the path leads nowhere any more.
What was in the directory is lost. -/
theorem not_written_through_itself :
    ∃ files : TargetFiles, files.toList = [⟨"a.txt", "1"⟩] ∧
      (∃ ds, files.destinations (Path.ofText "out/sub/..") = .ok ds) ∧
      FileTree.locate (.directory [("out", .directory [("sub", .directory [])])])
        (Path.ofText "out/sub/..") = .ok ["out"] ∧
      files.writeTree (Path.ofText "out/sub/..")
          (.directory [("out", .directory [("sub", .directory [])])]) =
        (.error (.rejected (.refused "out/sub/.."
            "[Errno 2] No such file or directory: 'out/sub/..'")),
          .directory [("out", .directory [])]) :=
  ⟨⟨[⟨"a.txt", "1"⟩], by decide⟩, rfl, ⟨_, rfl⟩, rfl, rfl⟩

end ApiScribe.TargetFiles
