import Mathlib.Data.List.Nodup
import ApiScribe.Proofs.FileTree.NullCharacters
import ApiScribe.Proofs.Output.Result

/-!
# Runs that fail

The check of the destinations refuses filenames that do not stay below the output directory and
filenames of the same file (`exists_destinations_iff`).  A run that it refuses changes nothing.  It
does not see that a file is in the way of another one, nor that a filename has a null character.
Such a run cannot succeed (`compatible_of_succeeds`), but it has emptied the directory by then.

Whatever way a run ends after the check, what is below the directory comes from its files, and
nothing else has changed: `Confined` is kept by every action of the run (`holds_writeEach`).
-/

namespace ApiScribe

open FileTree (Entry)
open FileTree.Action (Succeeds Fails Holds HoldsOnce)
open Place (ofNames Visits Passes)

namespace TargetFiles

variable {files : TargetFiles} {directory : Path} {ds : List Destination} {t t' : FileTree}
  {parts : List Part}

/-! ### The check of the destinations -/

/-- A filename names no place below the output directory: it is absolute, leads upwards, or has no
names at all. -/
def Misplaced (filename : String) : Prop :=
  (filePath filename).isAbsolute ∨ Path.up ∈ (filePath filename).names ∨
    (filePath filename).names = []

theorem inside?_eq_some_iff {filename : String} {names : List String} :
    inside? filename = some names ↔
      ¬ Misplaced filename ∧ (filePath filename).names = names := by
  unfold inside? Misplaced
  simp [and_assoc]

theorem inside?_eq_none {filename : String} : inside? filename = none ↔ Misplaced filename := by
  rw [Option.eq_none_iff_forall_ne_some]
  simp [inside?_eq_some_iff]

/-- The check passes exactly if all filenames stay below the directory and denote files of their
own. -/
theorem exists_destinations_iff :
    (∃ ds, files.destinations directory = .ok ds) ↔
      (∀ file ∈ files.toList, ¬ Misplaced file.filename) ∧
        ∀ a ∈ files.toList, ∀ b ∈ files.toList,
          inside? a.filename = inside? b.filename → a = b := by
  constructor
  · rintro ⟨ds, hds⟩
    obtain ⟨hfiles, hnamed, hnodup⟩ := destinations_eq_ok.1 hds
    refine ⟨?_, ?_⟩
    · intro file hf hm
      rw [← inside?_eq_none, inside?_of_mem hds hf] at hm
      cases hm
    · intro a ha b hb he
      rw [← hfiles] at ha hb
      obtain ⟨d, hd, rfl⟩ := List.mem_map.1 ha
      obtain ⟨e, he', rfl⟩ := List.mem_map.1 hb
      obtain ⟨names, hi, hp⟩ := hnamed d hd
      obtain ⟨names', hi', hp'⟩ := hnamed e he'
      rw [hi, hi', Option.some.injEq] at he
      subst he
      rw [List.inj_on_of_nodup_map hnodup hd he' (hp.trans hp'.symm)]
  · rintro ⟨hplaced, hown⟩
    have hinside : ∀ file ∈ files.toList, inside? file.filename = some file.part.1 := by
      intro file hf
      obtain ⟨names, hn⟩ := Option.ne_none_iff_exists'.1 (mt inside?_eq_none.1 (hplaced file hf))
      rw [TargetFile.part, hn]
      rfl
    refine ⟨files.toList.map fun file => ⟨directory.below file.part.1, file⟩, ?_⟩
    rw [destinations_eq_ok, List.map_map, List.map_map]
    refine ⟨List.map_id _, ?_, ?_⟩
    · intro d hd
      obtain ⟨file, hf, rfl⟩ := List.mem_map.1 hd
      exact ⟨_, hinside file hf, rfl⟩
    · have hnodup : files.toList.Nodup := List.Nodup.of_map _ files.distinct
      apply hnodup.map_on
      intro a ha b hb he
      apply hown a ha b hb
      rw [hinside a ha, hinside b hb, Path.below_inj.1 he]

/-! ### Null characters -/

/-- A null character of a filename stays in one of its names. -/
theorem null_mem_filePath {filename : String} :
    (∃ name ∈ (filePath filename).names, '\x00' ∈ name.toList) ↔
      '\x00' ∈ filename.toList := by
  have hslash : '\x00' ∈ (filename.toList.map fun c => if c = '\\' then '/' else c) ↔
      '\x00' ∈ filename.toList := by
    rw [List.mem_map]
    constructor
    · rintro ⟨c, hc, he⟩
      split at he
      · exact absurd he (by decide)
      · exact he ▸ hc
    · intro hm
      exact ⟨_, hm, by decide⟩
  rw [filePath, Path.mem_names_ofText (by decide) (by decide), String.toList_ofList, hslash]

/-- The path of a file has a null character exactly if its filename has one. -/
theorem Destination.Named.null_mem_text {d : Destination} (hd : d.Named directory)
    (hdir : Recreatable t directory) :
    '\x00' ∈ d.path.text.toList ↔ '\x00' ∈ d.file.filename.toList := by
  obtain ⟨slashes, above⟩ := directory
  obtain rfl : slashes = 0 := hdir.relative
  obtain ⟨names, hi, hp⟩ := hd
  obtain ⟨-, rfl⟩ := inside?_eq_some_iff.1 hi
  have habove := hdir.walkable.accepted.noNull
  rw [Path.null_mem_text] at habove
  have hpath : d.path = ⟨0, above ++ (filePath d.file.filename).names⟩ := hp
  rw [hpath, Path.null_mem_text, ← null_mem_filePath]
  constructor
  · rintro ⟨name, hn, hm⟩
    rcases List.mem_append.1 hn with hn | hn
    · exact absurd ⟨name, hn, hm⟩ habove
    · exact ⟨name, hn, hm⟩
  · rintro ⟨name, hn, hm⟩
    exact ⟨name, List.mem_append_right _ hn, hm⟩

/-! ### What is left in any case -/

/-- The way to the directory is there, what is below it comes from files, and elsewhere nothing has
changed. -/
structure Confined (t : FileTree) (directory : Path) (parts : List Part) (t' : FileTree) :
    Prop where
  way : ∀ place, Visits directory.names place → t'.entryAt? place = some .directory
  file : ∀ names bytes, t'.entryAt? (ofNames directory.names ++ names) = some (.file bytes) →
    (names, bytes) ∈ parts
  needed : ∀ names, t'.entryAt? (ofNames directory.names ++ names) = some .directory →
    names = [] ∨ ∃ part ∈ parts, names <+: part.1
  outside : ∀ place, ¬ ofNames directory.names <+: place → t'.entryAt? place = t.entryAt? place

/-- A directory that was just made anew is confined to any files, if it was there before. -/
theorem Written.confined (hdir : Recreatable t directory)
    (hthere : t.entryAt? (ofNames directory.names) = some .directory)
    (hw : Written t directory [] t') : Confined t directory parts t' where
  way := hw.way
  file := by
    intro names bytes h
    rw [hw.inside, Part.laidOut_nil] at h
    split at h <;> cases h
  needed := by
    intro names h
    rw [hw.inside, Part.laidOut_nil] at h
    split at h
    · next hnil => exact .inl hnil
    · cases h
  outside := by
    intro place hn
    rcases hw.elsewhere hdir hn with he | ⟨hp, hnone, -⟩
    · exact he
    · rcases hdir.way place hp with hd | ⟨-, hd⟩
      · rw [hd] at hnone
        cases hnone
      · rw [hthere] at hd
        cases hd

/-- What is below a directory once a leaf was laid there is that leaf, or was there before. -/
theorem entry_of_laid {base : Place} {names inner : List String} {leaf entry : Entry}
    {t'' : FileTree} (hl : FileTree.Laid t' (base ++ names) leaf t'')
    (h : t''.entryAt? (base ++ inner) = some entry) :
    (inner = names ∧ leaf = entry) ∨ t'.entryAt? (base ++ inner) = some entry := by
  by_cases he : inner = names
  · subst he
    rw [hl.here] at h
    exact .inl ⟨rfl, Option.some.inj h⟩
  · rw [hl.elsewhere _ fun h' => he (List.append_cancel_left h')] at h
    exact .inr h

/-- One more leaf below the directory is confined if it is a part of the files. -/
theorem Confined.laid (hc : Confined t directory parts t') {names : List String} {leaf : Entry}
    {t'' : FileTree} (hl : FileTree.Laid t' (ofNames directory.names ++ names) leaf t'')
    (hfile : ∀ bytes, leaf = .file bytes → (names, bytes) ∈ parts)
    (hneeded : leaf = .directory → ∃ part ∈ parts, names <+: part.1) :
    Confined t directory parts t'' where
  way := by
    intro place hv
    rw [hl.elsewhere, hc.way place hv]
    rintro rfl
    exact hl.free (hc.way _ hv)
  file := by
    intro inner bytes h
    rcases entry_of_laid hl h with ⟨rfl, he⟩ | h
    · exact hfile bytes he
    · exact hc.file inner bytes h
  needed := by
    intro inner h
    rcases entry_of_laid hl h with ⟨rfl, he⟩ | h
    · exact .inr (hneeded he)
    · exact hc.needed inner h
  outside := by
    intro place hn
    rw [hl.elsewhere, hc.outside place hn]
    rintro rfl
    exact hn (List.prefix_append _ _)

/-- Storing a part of the files below the directory keeps what is there confined to them, however
it ends.  It is only refused if its path has no null character. -/
theorem holds_store_part {part : Part} (hdir : Recreatable t directory) (hmem : part ∈ parts)
    (hup : Path.up ∉ part.1) {clean : Prop}
    (hclean : clean → '\x00' ∉ (directory.below part.1).text.toList) :
    Holds (Confined t directory parts) (fun e => clean → e.IsRefusal)
      (FileTree.Action.store (directory.below part.1) part.2) := by
  obtain ⟨slashes, above⟩ := directory
  obtain rfl : slashes = 0 := hdir.relative
  obtain ⟨names, bytes⟩ := part
  have hrefusal : clean → ∀ above', above' <+: above ++ names →
      '\x00' ∉ (⟨0, above'⟩ : Path).text.toList := by
    intro hc above' hp hm
    obtain ⟨name, hn, hm⟩ := Path.null_mem_text.1 hm
    exact hclean hc (Path.null_mem_text.2 ⟨name, hp.subset hn, hm⟩)
  show Holds _ _ (FileTree.Action.store ⟨0, above ++ names⟩ bytes)
  apply FileTree.Action.holds_store
  · -- a directory above the file is above the output directory, or between the two
    intro above' hp t₁ hc
    replace hp : above' <+: above ++ names := hp.trans (List.dropLast_prefix _)
    refine ⟨?_, fun e he hcl =>
      (FileTree.ordinary_of_makeDirectory he).isRefusal (hrefusal hcl _ hp)⟩
    intro t₂ hmade
    obtain ⟨hnone, hlaid⟩ := FileTree.laid_of_makeDirectory hmade
    rcases List.prefix_or_prefix_of_prefix hp (List.prefix_append above names) with hn | ⟨mid, rfl⟩
    · -- the way to the directory is there already
      rw [hc.way _ ⟨above', hn, rfl⟩] at hnone
      cases hnone
    · rw [List.prefix_append_right_inj] at hp
      rw [Place.ofNames_append above fun hm => hup (hp.subset hm)] at hlaid
      exact hc.laid hlaid (fun _ h => by cases h) fun _ => ⟨_, hmem, hp⟩
  · intro t₁ hc
    refine ⟨?_, fun e he hcl =>
      (FileTree.ordinary_of_write he).isRefusal (hrefusal hcl _ (List.prefix_refl _))⟩
    intro t₂ hwritten
    obtain ⟨-, hlaid⟩ := FileTree.laid_of_write hwritten
    rw [Place.ofNames_append above hup] at hlaid
    exact hc.laid hlaid (fun _ h => by cases h; exact hmem) (fun h => by cases h)

/-- Writing files one by one keeps what is below the directory confined to them. -/
theorem holds_writeEach (hdir : Recreatable t directory) (hnamed : ∀ d ∈ ds, d.Named directory)
    (hmem : ∀ d ∈ ds, d.file.part ∈ parts) {clean : Prop}
    (hclean : clean → ∀ d ∈ ds, '\x00' ∉ d.path.text.toList) :
    Holds (Confined t directory parts) (fun e => clean → e.IsRefusal) (writeEach ds) := by
  induction ds with
  | nil => exact fun t₁ h => FileTree.Action.holdsAt_pure h
  | cons d ds ih =>
    obtain ⟨hp, -, hup⟩ := Destination.Named.part (hnamed d List.mem_cons_self)
    have hfirst : Holds (Confined t directory parts) (fun e => clean → e.IsRefusal)
        (writeTo d) := by
      unfold writeTo
      rw [hp]
      apply holds_store_part hdir (hmem d List.mem_cons_self) hup
      intro hc
      rw [← hp]
      exact hclean hc d List.mem_cons_self
    exact hfirst.bind fun _ => ih (fun d hd => hnamed d (List.mem_cons_of_mem _ hd))
      (fun d hd => hmem d (List.mem_cons_of_mem _ hd))
      (fun hc d hd => hclean hc d (List.mem_cons_of_mem _ hd))

/-! ### What a success shows -/

/-- A file stays while others are written. -/
theorem exists_file_of_succeeds {place : Place} (hs : Succeeds (writeEach ds) t () t')
    (hfile : ∃ bytes, t.entryAt? place = some (.file bytes)) :
    ∃ bytes, t'.entryAt? place = some (.file bytes) := by
  induction ds generalizing t with
  | nil =>
    cases hs
    exact hfile
  | cons d ds ih =>
    obtain ⟨⟨⟩, t₁, hs₁, hs⟩ := hs.exists_of_bind
    have hkept := (FileTree.Action.holds_file place d.path
      (Text.encodeUtf8 d.file.content.toList) t hfile).1
    unfold writeTo Succeeds at hs₁
    rw [hs₁] at hkept
    exact ih hs hkept

/-- After all files were written each is at its place, and no path has a null character. -/
theorem file_of_succeeds (hs : Succeeds (writeEach ds) t () t') :
    ∀ d ∈ ds, '\x00' ∉ d.path.text.toList ∧
      ∃ bytes, t'.entryAt? (ofNames d.path.names) = some (.file bytes) := by
  induction ds generalizing t with
  | nil =>
    intro d hd
    cases hd
  | cons d ds ih =>
    obtain ⟨⟨⟩, t₁, hfirst, hrest⟩ := hs.exists_of_bind
    intro e he
    rcases List.mem_cons.1 he with rfl | he
    · obtain ⟨hnull, hfile⟩ := FileTree.Action.Succeeds.stored hfirst
      exact ⟨hnull, exists_file_of_succeeds hrest ⟨_, hfile⟩⟩
    · exact ih hrest e he

/-- Files that were all written are compatible, and no filename has a null character. -/
theorem compatible_of_succeeds (hdir : Recreatable t directory)
    (hds : files.destinations directory = .ok ds) {t₁ : FileTree}
    (hs : Succeeds (writeEach ds) t₁ () t') :
    files.Compatible ∧ ∀ file ∈ files.toList, '\x00' ∉ file.filename.toList := by
  obtain ⟨hfiles, hnamed, -⟩ := destinations_eq_ok.1 hds
  have hwritten := file_of_succeeds hs
  -- each file of the collection is there, at the names of its filename
  have hthere : ∀ file ∈ files.toList, ∀ names, inside? file.filename = some names →
      ∃ bytes, t'.entryAt? (ofNames directory.names ++ names) = some (.file bytes) := by
    intro file hf names hi
    rw [← hfiles] at hf
    obtain ⟨d, hd, rfl⟩ := List.mem_map.1 hf
    obtain ⟨names', hi', hp⟩ := hnamed d hd
    rw [hi, Option.some.injEq] at hi'
    subst hi'
    have hfile := (hwritten d hd).2
    rw [hp, Path.names_below, Place.ofNames_append _ (inside?_eq_some hi).2] at hfile
    exact hfile
  constructor
  · -- a file that has something below it would be a directory
    intro file hf other ho names below hi hj
    by_contra hne
    obtain ⟨bytes, hfile⟩ := hthere file hf names hi
    obtain ⟨bytes', hother⟩ := hthere other ho _ hj
    rw [← List.append_assoc] at hother
    have hdirectory := FileTree.entryAt?_of_append hne (by rw [hother]; exact Option.some_ne_none _)
    rw [hfile] at hdirectory
    cases hdirectory
  · intro file hf hnull
    rw [← hfiles] at hf
    obtain ⟨d, hd, rfl⟩ := List.mem_map.1 hf
    exact (hwritten d hd).1 (((hnamed d hd).null_mem_text hdir).2 hnull)

/-! ### Null characters in the way -/

/-- The operating system takes the path of the file, up to null characters in it. -/
def Destination.WithinLimits (d : Destination) : Prop :=
  d.path.text.utf8ByteSize < FileTree.pathLimit ∧
    ∀ name ∈ d.path.names, name.utf8ByteSize ≤ FileTree.nameLimit

theorem Destination.WithinLimits.accepted {d : Destination} (h : d.WithinLimits)
    (hnull : '\x00' ∉ d.path.text.toList) : d.path.Accepted := ⟨hnull, h.1, h.2⟩

/-- A file that is apart from those before it and has a null character in its path ends the run. -/
theorem fails_writeTo_of_null (hdir : Recreatable t directory) (hw : Written t directory parts t')
    {d : Destination} (hd : d.Named directory) (hlimits : d.WithinLimits)
    (hnull : '\x00' ∈ d.path.text.toList) (hapart : ∀ p ∈ parts, Part.Apart p d.file.part) :
    ∃ t'', Fails (writeTo d) t' .nullCharacter t'' := by
  obtain ⟨slashes, above⟩ := directory
  obtain rfl : slashes = 0 := hdir.relative
  obtain ⟨hp, hne, hup⟩ := hd.part
  -- whether a null character stands above the last name decides which step is refused
  obtain ⟨inner, name, hi⟩ : ∃ inner name, d.file.part.1 = inner ++ [name] :=
    ⟨_, _, (List.dropLast_concat_getLast hne).symm⟩
  rw [hi] at hup
  have hinner : Path.up ∉ inner := fun hm => hup (List.mem_append_left _ hm)
  have hpath : d.path = ⟨0, above ++ inner ++ [name]⟩ := by
    rw [hp, hi, List.append_assoc]
    rfl
  have hparent : d.path.parent = ⟨0, above ++ inner⟩ := by
    rw [hpath, Path.parent, List.dropLast_concat]
  unfold writeTo FileTree.Action.store
  by_cases hin : '\x00' ∈ d.path.parent.text.toList
  · exact ⟨t', (FileTree.Action.fails_makeDirectories_of_null hin).bind⟩
  · -- the directories of the file are made, and only the file itself has no path
    have hroot : above ++ inner ≠ [] := by
      intro he
      exact hdir.below (by rw [(List.append_eq_nil_iff.1 he).1]; rfl)
    obtain ⟨rest, hr⟩ := Path.exists_text_append hroot [name]
    have haccepted : Path.Accepted ⟨0, above ++ inner⟩ := by
      obtain ⟨hsize, hshort⟩ := hlimits
      rw [hpath] at hsize hshort
      rw [hparent] at hin
      rw [hr, String.utf8ByteSize_append] at hsize
      exact ⟨hin, by omega, fun n hn => hshort n (List.mem_append_left _ hn)⟩
    have hfree : ∀ place, Visits (above ++ inner) place →
        t'.entryAt? place = some .directory ∨ t'.entryAt? place = none :=
      fun place hv => hw.free hapart (hi ▸ List.prefix_append _ _) hinner hv
    have hlast : t'.entryAt? (ofNames (above ++ inner)) = none ∨
        t'.entryAt? (ofNames (above ++ inner)) = some .directory ∧ true = true :=
      (hfree _ (Place.visits_iff.2 (.inr rfl))).symm.imp_right fun h => ⟨h, rfl⟩
    obtain ⟨t₁, hs, -⟩ := FileTree.Action.succeeds_makeDirectories
      (hdir.walkable.append hinner haccepted)
      (fun place hv => hfree place (Place.visits_iff.2 (.inl hv))) hlast (by intro h; cases h)
    rw [← hparent] at hs
    exact ⟨t₁, hs.bind_fails (FileTree.Action.fails_ofStep (FileTree.write_of_null hnull))⟩

/-- Files that are apart from each other are written up to the first one whose path has a null
character, which ends the run. -/
theorem fails_writeEach_of_null (hdir : Recreatable t directory)
    (hnamed : ∀ d ∈ ds, d.Named directory) (hlimits : ∀ d ∈ ds, d.WithinLimits)
    (hapart : (parts ++ ds.map fun d => d.file.part).Pairwise Part.Apart)
    (hw : Written t directory parts t') (hnull : ∃ d ∈ ds, '\x00' ∈ d.path.text.toList) :
    ∃ t'', Fails (writeEach ds) t' .nullCharacter t'' := by
  induction ds generalizing parts t' with
  | nil =>
    obtain ⟨d, hd, -⟩ := hnull
    cases hd
  | cons d ds ih =>
    have hfirst := hnamed d List.mem_cons_self
    have hbefore : ∀ p ∈ parts, Part.Apart p d.file.part :=
      fun p hm => (List.pairwise_append.1 hapart).2.2 p hm _ List.mem_cons_self
    by_cases hd : '\x00' ∈ d.path.text.toList
    · obtain ⟨t'', hf⟩ :=
        fails_writeTo_of_null hdir hw hfirst (hlimits d List.mem_cons_self) hd hbefore
      exact ⟨t'', hf.bind⟩
    · obtain ⟨t₁, hs₁, hw₁, hapart₁⟩ := exists_written_first hdir hw hfirst
        ((hlimits d List.mem_cons_self).accepted hd) hapart
      have hrest : ∃ e ∈ ds, '\x00' ∈ e.path.text.toList := by
        obtain ⟨e, he, hnull⟩ := hnull
        rcases List.mem_cons.1 he with rfl | he
        · exact absurd hnull hd
        · exact ⟨e, he, hnull⟩
      obtain ⟨t'', hf⟩ := ih (fun d hd => hnamed d (List.mem_cons_of_mem _ hd))
        (fun d hd => hlimits d (List.mem_cons_of_mem _ hd)) hapart₁ hw₁ hrest
      exact ⟨t'', hs₁.bind_fails hf⟩

/-! ### Runs that fail -/

/-- A run whose writing fails after the directory was made anew fails likewise. -/
theorem writeTree_of_fails (hds : files.destinations directory = .ok ds) {t₁ : FileTree}
    {e : FileError} (hs : Succeeds (recreate directory) t () t₁)
    (hf : Fails (writeEach ds) t₁ e t') :
    files.writeTree directory t =
      (.error (Failure.ofFile (WriteError.refused directory.text) e), t') := by
  have hrun : Fails (do recreate directory; writeEach ds) t e t' := hs.bind_fails hf
  unfold Fails at hrun
  unfold writeTree
  rw [hds]
  dsimp only
  rw [hrun]

/-- Filenames that lie elsewhere or are of the same file are refused before anything is done. -/
theorem refused_of_misplaced (hwrong : (∃ file ∈ files.toList, Misplaced file.filename) ∨
      ∃ a ∈ files.toList, ∃ b ∈ files.toList,
        a ≠ b ∧ inside? a.filename = inside? b.filename) :
    ∃ e, files.destinations directory = .error e ∧
      files.writeTree directory t = (.error (.rejected e), t) := by
  cases hds : files.destinations directory with
  | ok ds =>
    obtain ⟨hplaced, hown⟩ := exists_destinations_iff.1 ⟨ds, hds⟩
    rcases hwrong with ⟨file, hf, hm⟩ | ⟨a, ha, b, hb, hne, he⟩
    · exact absurd hm (hplaced file hf)
    · exact absurd (hown a ha b hb he) hne
  | error e =>
    refine ⟨e, rfl, ?_⟩
    unfold writeTree
    rw [hds]

theorem part_mem_of_destinations (hds : files.destinations directory = .ok ds) :
    ∀ d ∈ ds, d.file.part ∈ files.toList.map TargetFile.part := by
  obtain ⟨hfiles, -, -⟩ := destinations_eq_ok.1 hds
  intro d hd
  rw [← hfiles]
  exact List.mem_map_of_mem (List.mem_map_of_mem hd)

/-- A null character is in the path of a destination exactly if it is in the filename of a file. -/
theorem exists_null_mem_iff (hdir : Recreatable t directory)
    (hds : files.destinations directory = .ok ds) :
    (∃ d ∈ ds, '\x00' ∈ d.path.text.toList) ↔
      ∃ file ∈ files.toList, '\x00' ∈ file.filename.toList := by
  obtain ⟨hfiles, hnamed, -⟩ := destinations_eq_ok.1 hds
  rw [← hfiles]
  constructor
  · rintro ⟨d, hd, hm⟩
    exact ⟨d.file, List.mem_map_of_mem hd, ((hnamed d hd).null_mem_text hdir).1 hm⟩
  · rintro ⟨file, hf, hm⟩
    obtain ⟨d, hd, rfl⟩ := List.mem_map.1 hf
    exact ⟨d, hd, ((hnamed d hd).null_mem_text hdir).2 hm⟩

/-- Files of which not all can be written leave the directory confined to them, and are refused if
there is no null character. -/
theorem exists_confined_failure (hdir : Recreatable t directory)
    (hthere : t.entryAt? (ofNames directory.names) = some .directory)
    (hds : files.destinations directory = .ok ds)
    (hwrong : ¬ files.Compatible ∨ ∃ file ∈ files.toList, '\x00' ∈ file.filename.toList)
    {t₁ : FileTree} (hw : Written t directory [] t₁) :
    ∃ e t', Fails (writeEach ds) t₁ e t' ∧
      Confined t directory (files.toList.map TargetFile.part) t' ∧
      ((∀ file ∈ files.toList, '\x00' ∉ file.filename.toList) → e.IsRefusal) := by
  obtain ⟨-, hnamed, -⟩ := destinations_eq_ok.1 hds
  have hclean : (∀ file ∈ files.toList, '\x00' ∉ file.filename.toList) →
      ∀ d ∈ ds, '\x00' ∉ d.path.text.toList := by
    intro hc d hd hm
    obtain ⟨file, hf, hm⟩ := (exists_null_mem_iff hdir hds).1 ⟨d, hd, hm⟩
    exact hc file hf hm
  obtain ⟨hconfined, hrefusal⟩ := holds_writeEach hdir hnamed (part_mem_of_destinations hds) hclean
    t₁ (hw.confined hdir hthere)
  cases hr : (writeEach ds).run.run t₁ with
  | mk outcome t' =>
    rw [hr] at hconfined hrefusal
    cases outcome with
    | error e => exact ⟨e, t', hr, hconfined, hrefusal e rfl⟩
    | ok u =>
      -- what was written is compatible and has no null character
      obtain ⟨hcompatible, hc⟩ := compatible_of_succeeds hdir hds hr
      rcases hwrong with hwrong | ⟨file, hf, hm⟩
      · exact absurd hcompatible hwrong
      · exact absurd hm (hc file hf)

/-- Compatible files with null characters are written up to the first of these. -/
theorem fails_of_compatible (hdir : Recreatable t directory)
    (hds : files.destinations directory = .ok ds) (hcompatible : files.Compatible)
    (hlimits : ∀ d ∈ ds, d.WithinLimits)
    (hnull : ∃ file ∈ files.toList, '\x00' ∈ file.filename.toList)
    {t₁ : FileTree} (hw : Written t directory [] t₁) :
    ∃ t', Fails (writeEach ds) t₁ .nullCharacter t' := by
  obtain ⟨hfiles, hnamed, -⟩ := destinations_eq_ok.1 hds
  have hapart := hcompatible.pairwise_apart hds
  rw [← hfiles, List.map_map] at hapart
  exact fails_writeEach_of_null hdir hnamed hlimits hapart hw
    ((exists_null_mem_iff hdir hds).2 hnull)

/-- What a run comes to if the filenames cannot all be files below the output directory, which is
there.

Filenames that lie elsewhere and filenames of the same file are refused before anything is done,
and nothing has changed.  A file in the way of another one and a null character in a filename are
noticed by the writing only: such a run fails too, but what was in the directory is lost.  All that
is below the directory is files of the collection and directories of theirs; elsewhere nothing has
changed.  Without null characters the run is rejected; if they are all that is wrong, and no path
is too long, it is interrupted. -/
theorem writeTree_of_unplaceable (hdir : Recreatable t directory)
    (hthere : t.entryAt? (ofNames directory.names) = some .directory) :
    ((∃ file ∈ files.toList, Misplaced file.filename) ∨
        (∃ a ∈ files.toList, ∃ b ∈ files.toList,
          a ≠ b ∧ inside? a.filename = inside? b.filename) →
      ∃ e, files.destinations directory = .error e ∧
        files.writeTree directory t = (.error (.rejected e), t)) ∧
    ∀ ds, files.destinations directory = .ok ds →
      (¬ files.Compatible ∨ ∃ file ∈ files.toList, '\x00' ∈ file.filename.toList) →
      ∃ failure t', files.writeTree directory t = (.error failure, t') ∧
        (∀ names bytes, t'.entryAt? (ofNames directory.names ++ names) = some (.file bytes) →
          ∃ file ∈ files.toList, inside? file.filename = some names ∧
            bytes = Text.encodeUtf8 file.content.toList) ∧
        (∀ names, t'.entryAt? (ofNames directory.names ++ names) = some .directory →
          names = [] ∨ ∃ file ∈ files.toList, ∃ below,
            inside? file.filename = some (names ++ below)) ∧
        (∀ place, ¬ ofNames directory.names <+: place →
          t'.entryAt? place = t.entryAt? place) ∧
        ((∀ file ∈ files.toList, '\x00' ∉ file.filename.toList) → ∃ e, failure = .rejected e) ∧
        (files.Compatible → (∀ d ∈ ds, d.WithinLimits) →
          failure = .interrupted .nullCharacter) := by
  refine ⟨refused_of_misplaced, ?_⟩
  intro ds hds hwrong
  obtain ⟨t₁, hs, hw⟩ := exists_recreated hdir
  obtain ⟨e, t', hf, hconfined, hrefusal⟩ := exists_confined_failure hdir hthere hds hwrong hw
  refine ⟨_, t', writeTree_of_fails hds hs hf, ?_, ?_, hconfined.outside, ?_, ?_⟩
  · intro names bytes h
    obtain ⟨file, hm, he⟩ := List.mem_map.1 (hconfined.file names bytes h)
    refine ⟨file, hm, ?_, ?_⟩
    · rw [inside?_of_mem hds hm, he]
    · exact congrArg Prod.snd he.symm
  · intro names h
    rcases hconfined.needed names h with hnil | ⟨part, hp, below, hb⟩
    · exact .inl hnil
    · obtain ⟨file, hm, rfl⟩ := List.mem_map.1 hp
      exact .inr ⟨file, hm, below, by rw [inside?_of_mem hds hm, hb]⟩
  · intro hc
    obtain ⟨r, shown, rfl⟩ := hrefusal hc
    exact ⟨_, rfl⟩
  · intro hcompatible hlimits
    have hnull := hwrong.resolve_left fun h => h hcompatible
    obtain ⟨t'', hf'⟩ := fails_of_compatible hdir hds hcompatible hlimits hnull hw
    cases hf.symm.trans hf'
    rfl

/-- Two files, one of which is where the other needs a directory. -/
def conflictingFiles : TargetFiles := ⟨[⟨"a", "1"⟩, ⟨"a/b", "2"⟩], by decide⟩

/-- The run of conflicting files is rejected, and the old file is lost. -/
theorem writeTree_of_unplaceable_conflict :
    sampleTree.entryAt? ["out", "old.txt"] = some (.file [48]) ∧
      ∃ e t', conflictingFiles.writeTree ⟨0, ["out"]⟩ sampleTree = (.error (.rejected e), t') ∧
        t'.entryAt? ["out", "old.txt"] = none := by
  have hds : conflictingFiles.destinations ⟨0, ["out"]⟩ = .ok
      [⟨⟨0, ["out", "a"]⟩, ⟨"a", "1"⟩⟩, ⟨⟨0, ["out", "a", "b"]⟩, ⟨"a/b", "2"⟩⟩] := rfl
  have hconflict : ¬ conflictingFiles.Compatible := by
    intro h
    have hnil := h ⟨"a", "1"⟩ (by decide) ⟨"a/b", "2"⟩ (by decide) ["a"] ["b"] rfl rfl
    cases hnil
  refine ⟨rfl, ?_⟩
  obtain ⟨failure, t', hrun, hfile, hdirectory, -, hrejected, -⟩ :=
    (writeTree_of_unplaceable sampleTree_recreatable rfl).2 _ hds (.inl hconflict)
  obtain ⟨e, rfl⟩ := hrejected (by decide)
  refine ⟨e, t', hrun, ?_⟩
  cases hold : t'.entryAt? ["out", "old.txt"] with
  | none => rfl
  | some entry =>
    exfalso
    cases entry with
    | file bytes =>
      obtain ⟨file, hf, hi, -⟩ := hfile ["old.txt"] bytes hold
      revert file
      decide
    | directory =>
      rcases hdirectory ["old.txt"] hold with hnil | ⟨file, hf, below, hi⟩
      · cases hnil
      · have hnames : ∀ file ∈ conflictingFiles.toList,
            inside? file.filename = some ["a"] ∨ inside? file.filename = some ["a", "b"] := by
          decide
        rcases hnames file hf with h | h <;>
        · rw [h] at hi
          simp at hi

end TargetFiles
end ApiScribe
