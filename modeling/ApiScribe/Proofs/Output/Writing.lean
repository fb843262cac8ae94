import ApiScribe.Proofs.FileTree.Actions
import ApiScribe.Proofs.Output.Destinations
import ApiScribe.Proofs.Output.Layout

/-!
# What is written

Writing a collection of files makes the output directory anew and then stores one file after the
other.  The invariant of the loop is `Written`: below the output directory there is what the files
so far make of it, and elsewhere nothing has changed but the way to it.

* `exists_recreated` — the invariant holds for no files once the directory is made;
* `exists_written_concat` — storing a file keeps it, if the file is apart from those before it;
* `exists_written` — so it holds for all files in the end.
-/

namespace ApiScribe

open FileTree (Entry)
open FileTree.Action (Succeeds)
open Place (ofNames Visits Passes)

/-- The names of a file below the output directory, and its bytes. -/
def TargetFile.part (file : TargetFile) : Part :=
  ((TargetFiles.inside? file.filename).getD [], Text.encodeUtf8 file.content.toList)

namespace TargetFiles

/-- A directory that can be made anew in a tree.  The operating system takes its path, which stays
inside of the tree.  It is there, or nothing is and what is missing of the way to it can be made.
The way to it does not lead through the directory itself. -/
structure Recreatable (t : FileTree) (directory : Path) : Prop where
  relative : directory.slashes = 0
  walkable : Walkable directory.names
  below : ofNames directory.names ≠ []
  around : ∀ place, Passes directory.names place → ¬ ofNames directory.names <+: place
  free : t.entryAt? (ofNames directory.names) = some .directory ∨
    t.entryAt? (ofNames directory.names) = none
  way : ∀ place, Passes directory.names place → t.entryAt? place = some .directory ∨
    t.entryAt? place = none ∧ t.entryAt? (ofNames directory.names) = none

/-- Below the directory there is what the files make of it.  The way to it is there, and nothing
else has changed. -/
structure Written (t : FileTree) (directory : Path) (parts : List Part) (t' : FileTree) :
    Prop where
  way : ∀ place, Visits directory.names place → t'.entryAt? place = some .directory
  inside : ∀ names, t'.entryAt? (ofNames directory.names ++ names) = Part.laidOut parts names
  outside : ∀ place, ¬ Visits directory.names place → ¬ ofNames directory.names <+: place →
    t'.entryAt? place = t.entryAt? place

variable {t t' : FileTree} {directory : Path} {parts : List Part}

/-- A destination is below the directory at the names of its file. -/
theorem Destination.Named.part {d : Destination} (h : d.Named directory) :
    d.path = directory.below d.file.part.1 ∧ d.file.part.1 ≠ [] ∧ Path.up ∉ d.file.part.1 := by
  obtain ⟨names, hi, hp⟩ := h
  rw [TargetFile.part, hi]
  exact ⟨hp, inside?_eq_some hi⟩

/-! ### The directory -/

theorem recreate_of_found (h : t.hasEntry directory = .ok true) {t₁ : FileTree}
    (hr : Succeeds (FileTree.Action.removeTree directory) t () t₁)
    (hm : Succeeds (FileTree.Action.makeDirectories false directory) t₁ () t') :
    Succeeds (recreate directory) t () t' := by
  unfold recreate
  rw [FileTree.Action.succeeds_get_bind, h]
  exact hr.bind hm

theorem recreate_of_not_found (h : t.hasEntry directory = .ok false)
    (hm : Succeeds (FileTree.Action.makeDirectories false directory) t () t') :
    Succeeds (recreate directory) t () t' := by
  unfold recreate
  rw [FileTree.Action.succeeds_get_bind, h]
  exact hm

theorem hasEntry_of_directory {names : List String} (hwalk : Walkable names)
    (hpass : ∀ place, Passes names place → t.entryAt? place = some .directory)
    (hdir : t.entryAt? (ofNames names) = some .directory) : t.hasEntry ⟨0, names⟩ = .ok true := by
  obtain ⟨entries, he⟩ := FileTree.entryAt?_eq_directory.1 hdir
  unfold FileTree.hasEntry
  rw [FileTree.locate_eq_ok hwalk hpass]
  dsimp only
  rw [he]
  rfl

/-- Nothing is found at a place that has nothing, also where the way to it is missing. -/
theorem hasEntry_of_none {names : List String} (hwalk : Walkable names)
    (hpass : ∀ place, Passes names place →
      t.entryAt? place = some .directory ∨ t.entryAt? place = none)
    (hnone : t.entryAt? (ofNames names) = none) : t.hasEntry ⟨0, names⟩ = .ok false := by
  unfold FileTree.hasEntry
  by_cases hgap : ∃ place, Passes names place ∧ t.entryAt? place = none
  · rw [FileTree.locate_eq_missing hwalk hpass hgap]
  · rw [FileTree.locate_eq_ok hwalk (FileTree.directory_of_no_gap hpass hgap)]
    dsimp only
    rw [FileTree.entryAt?_eq_none.1 hnone]
    rfl

/-- The way to the directory visits no place in it. -/
theorem Recreatable.eq_nil_of_visits (h : Recreatable t directory) {below : Place}
    (hv : Visits directory.names (ofNames directory.names ++ below)) : below = [] := by
  rcases Place.visits_iff.1 hv with hp | he
  · exact absurd (List.prefix_append _ _) (h.around _ hp)
  · exact List.append_right_eq_self.1 he

/-- The way to a place in the directory visits no others in it than those above. -/
theorem Recreatable.above_of_visits (h : Recreatable t directory) {inner names : List String}
    (hup : Path.up ∉ inner)
    (hv : Visits (directory.names ++ inner) (ofNames directory.names ++ names)) :
    names <+: inner := by
  rcases (Place.visits_append hup).1 hv with hv | ⟨part, hp, he⟩
  · rw [h.eq_nil_of_visits hv]
    exact List.nil_prefix
  · rw [List.append_cancel_left he]
    exact hp

/-- Where nothing is, the directory is made with the way to it, and nothing is in it. -/
theorem exists_made {names : List String} (h : Recreatable t ⟨0, names⟩) {t₁ : FileTree}
    (hnone : t₁.entryAt? (ofNames names) = none)
    (helse : ∀ place, ¬ ofNames names <+: place → t₁.entryAt? place = t.entryAt? place) :
    ∃ t', Succeeds (FileTree.Action.makeDirectories false ⟨0, names⟩) t₁ () t' ∧
      Written t ⟨0, names⟩ [] t' := by
  have hpass : ∀ place, Passes names place →
      t₁.entryAt? place = some .directory ∨ t₁.entryAt? place = none := by
    intro place hp
    rw [helse place (h.around place hp)]
    rcases h.way place hp with hd | ⟨hn, -⟩
    · exact .inl hd
    · exact .inr hn
  have hnew : ¬ Passes names (ofNames names) :=
    fun hp => h.around _ hp (List.prefix_refl _)
  obtain ⟨t', hs, hm⟩ :=
    FileTree.Action.succeeds_makeDirectories h.walkable hpass (.inl hnone) fun _ => hnew
  refine ⟨t', hs, ⟨hm.visited, ?_, ?_⟩⟩
  · intro below
    by_cases hb : below = []
    · subst hb
      rw [List.append_nil]
      exact hm.visited _ (Place.visits_iff.2 (.inr rfl))
    · have hv : ¬ Visits names (ofNames names ++ below) := fun hv => hb (h.eq_nil_of_visits hv)
      rw [hm.elsewhere _ hv, FileTree.entryAt?_append_of_none hnone, Part.laidOut, List.lookup_nil]
      simp [hb]
  · intro place hv hn
    rw [hm.elsewhere place hv, helse place hn]

/-- The directory is made anew, whether it was there or not. -/
theorem exists_recreated (h : Recreatable t directory) :
    ∃ t', Succeeds (recreate directory) t () t' ∧ Written t directory [] t' := by
  obtain ⟨slashes, names⟩ := directory
  obtain rfl : slashes = 0 := h.relative
  rcases h.free with hdir | hnone
  · have hpass : ∀ place, Passes names place → t.entryAt? place = some .directory := by
      intro place hp
      rcases h.way place hp with hd | ⟨-, hn⟩
      · exact hd
      · rw [hdir] at hn
        cases hn
    obtain ⟨t₁, hr, hn₁, helse⟩ :=
      FileTree.Action.succeeds_removeTree h.walkable hpass hdir h.below h.around
    obtain ⟨t', hm, hw⟩ := exists_made h hn₁ helse
    exact ⟨t', recreate_of_found (hasEntry_of_directory h.walkable hpass hdir) hr hm, hw⟩
  · have hpass : ∀ place, Passes names place →
        t.entryAt? place = some .directory ∨ t.entryAt? place = none := by
      intro place hp
      exact (h.way place hp).imp id And.left
    obtain ⟨t', hm, hw⟩ := exists_made h hnone fun _ _ => rfl
    exact ⟨t', recreate_of_not_found (hasEntry_of_none h.walkable hpass hnone) hm, hw⟩

/-! ### The files -/

/-- On the way to a file that is apart from those before it there is no file. -/
theorem Written.free (hw : Written t directory parts t') {part : Part}
    (hapart : ∀ p ∈ parts, Part.Apart p part) {inner : List String} (hinner : inner <+: part.1)
    (hup : Path.up ∉ inner) {place : Place} (hv : Visits (directory.names ++ inner) place) :
    t'.entryAt? place = some .directory ∨ t'.entryAt? place = none := by
  rcases (Place.visits_append hup).1 hv with hv | ⟨names, hn, rfl⟩
  · exact .inl (hw.way place hv)
  · rw [hw.inside, Part.laidOut_of_lookup_none (Part.lookup_above hapart (hn.trans hinner))]
    split
    · exact .inl rfl
    · exact .inr rfl

/-- The file is added to what is there if it is at its place, the way to it is there, and nothing
else has changed. -/
theorem Written.concat (h : Recreatable t directory) (hw : Written t directory parts t')
    {inner : List String} {name : String} {bytes : List UInt8} (hinner : Path.up ∉ inner)
    (hapart : ∀ p ∈ parts, Part.Apart p (inner ++ [name], bytes)) {t'' : FileTree}
    (hfile : t''.entryAt? (ofNames directory.names ++ (inner ++ [name])) = some (.file bytes))
    (hway : ∀ place, Visits (directory.names ++ inner) place →
      t''.entryAt? place = some .directory)
    (helse : ∀ place, place ≠ ofNames directory.names ++ (inner ++ [name]) →
      ¬ Visits (directory.names ++ inner) place → t''.entryAt? place = t'.entryAt? place) :
    Written t directory (parts ++ [(inner ++ [name], bytes)]) t'' where
  way place hv := hway place ((Place.visits_append hinner).2 (.inl hv))
  inside := by
    -- a place below the directory is that of the file, above it, or neither
    intro names
    by_cases hself : names = inner ++ [name]
    · rw [hself, hfile]
      exact (Part.laidOut_concat_self hapart).symm
    · by_cases hp : names <+: inner ++ [name]
      · rw [Part.laidOut_concat_above hapart hp hself]
        have habove := (List.prefix_concat_iff.1 hp).resolve_left hself
        exact hway _ ((Place.visits_append hinner).2 (.inr ⟨names, habove, rfl⟩))
      · rw [Part.laidOut_concat_elsewhere hp, helse, hw.inside]
        · exact fun he => hself (List.append_cancel_left he)
        · exact fun hv => hp ((h.above_of_visits hinner hv).trans (List.prefix_append _ _))
  outside := by
    intro place hv hn
    rw [helse place, hw.outside place hv hn]
    · rintro rfl
      exact hn (List.prefix_append _ _)
    · intro hv'
      rcases (Place.visits_append hinner).1 hv' with hv' | ⟨names, -, rfl⟩
      · exact hv hv'
      · exact hn (List.prefix_append _ _)

/-- Storing a file that is apart from those before it adds it to what is there. -/
theorem exists_written_concat (h : Recreatable t directory) (hw : Written t directory parts t')
    {part : Part} (hne : part.1 ≠ []) (hup : Path.up ∉ part.1)
    (haccepted : (directory.below part.1).Accepted)
    (hapart : ∀ p ∈ parts, Part.Apart p part) :
    ∃ t'', Succeeds (FileTree.Action.store (directory.below part.1) part.2) t' () t'' ∧
      Written t directory (parts ++ [part]) t'' := by
  obtain ⟨slashes, above⟩ := directory
  obtain rfl : slashes = 0 := h.relative
  obtain ⟨names, bytes⟩ := part
  -- the directories of the file, and its name in the last of them
  obtain ⟨inner, name, rfl⟩ : ∃ inner name, names = inner ++ [name] :=
    ⟨_, _, (List.dropLast_concat_getLast hne).symm⟩
  have hinner : Path.up ∉ inner := fun hm => hup (List.mem_append_left _ hm)
  have hplace : ofNames (above ++ inner ++ [name]) = ofNames above ++ (inner ++ [name]) := by
    rw [List.append_assoc, Place.ofNames_append above hup]
  have hwalk : Walkable (above ++ inner ++ [name]) := by
    rw [List.append_assoc]
    exact h.walkable.append hup haccepted
  have hfree : ∀ place, Visits (above ++ inner) place →
      t'.entryAt? place = some .directory ∨ t'.entryAt? place = none :=
    fun place hv => hw.free hapart (List.prefix_append _ _) hinner hv
  have hnone : t'.entryAt? (ofNames (above ++ inner ++ [name])) = none := by
    rw [hplace, hw.inside]
    exact Part.laidOut_self hapart hne
  have hnew : ¬ Visits (above ++ inner) (ofNames (above ++ inner ++ [name])) := by
    rw [hplace]
    intro hv
    have hl := (h.above_of_visits hinner hv).length_le
    rw [List.length_append, List.length_singleton] at hl
    omega
  obtain ⟨t'', hs, hfile, hway, helse⟩ := FileTree.Action.succeeds_store hwalk hfree hnone hnew
  rw [hplace] at hfile helse
  refine ⟨t'', ?_, hw.concat h hinner hapart hfile hway helse⟩
  show Succeeds (FileTree.Action.store ⟨0, above ++ (inner ++ [name])⟩ bytes) t' () t''
  rw [← List.append_assoc]
  exact hs

/-- The first of several files that are apart from each other joins those before it, and the rest is
apart from all of them. -/
theorem exists_written_first (h : Recreatable t directory) (hw : Written t directory parts t')
    {d : Destination} {ds : List Destination} (hd : d.Named directory)
    (haccepted : d.path.Accepted)
    (hapart : (parts ++ (d :: ds).map fun d => d.file.part).Pairwise Part.Apart) :
    ∃ t'', Succeeds (writeTo d) t' () t'' ∧ Written t directory (parts ++ [d.file.part]) t'' ∧
      (parts ++ [d.file.part] ++ ds.map fun d => d.file.part).Pairwise Part.Apart := by
  obtain ⟨hp, hne, hup⟩ := hd.part
  have hbefore : ∀ p ∈ parts, Part.Apart p d.file.part :=
    fun p hm => (List.pairwise_append.1 hapart).2.2 p hm _ List.mem_cons_self
  rw [hp] at haccepted
  obtain ⟨t'', hs, hw'⟩ := exists_written_concat h hw hne hup haccepted hbefore
  refine ⟨t'', ?_, hw', ?_⟩
  · unfold writeTo
    rw [hp]
    exact hs
  · rw [List.append_assoc, List.singleton_append]
    exact hapart

/-- Storing files one by one adds them all, if they are apart from each other. -/
theorem exists_written (h : Recreatable t directory) {ds : List Destination}
    (hnamed : ∀ d ∈ ds, d.Named directory)
    (haccepted : ∀ d ∈ ds, d.path.Accepted)
    (hapart : (parts ++ ds.map fun d => d.file.part).Pairwise Part.Apart)
    (hw : Written t directory parts t') :
    ∃ t'', Succeeds (writeEach ds) t' () t'' ∧
      Written t directory (parts ++ ds.map fun d => d.file.part) t'' := by
  induction ds generalizing parts t' with
  | nil =>
    refine ⟨t', rfl, ?_⟩
    rw [List.map_nil, List.append_nil]
    exact hw
  | cons d ds ih =>
    obtain ⟨t₁, hs₁, hw₁, hapart₁⟩ := exists_written_first h hw (hnamed d List.mem_cons_self)
      (haccepted d List.mem_cons_self) hapart
    obtain ⟨t'', hs, hw'⟩ := ih (fun d hd => hnamed d (List.mem_cons_of_mem _ hd))
      (fun d hd => haccepted d (List.mem_cons_of_mem _ hd)) hapart₁ hw₁
    rw [List.append_assoc, List.singleton_append] at hw'
    exact ⟨t'', hs₁.bind hs, hw'⟩

end TargetFiles
end ApiScribe
