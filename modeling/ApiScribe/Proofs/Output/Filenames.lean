import ApiScribe.Proofs.Output.Failure
import ApiScribe.Proofs.Traversal

/-!
# Which filenames are accepted

A filename is read as the names between its slashes and backslashes.  It is accepted exactly if it
is relative, has names and does not lead upwards (`inside?_eq_some_iff_leadsBelow`), and files are
accepted together exactly if in addition no two are read as the same names.  The files before the
first that is refused are accepted, and it alone decides the error (`destinations_exact`).
-/

namespace ApiScribe

/-! ### Pieces between separators -/

namespace Text

variable {sep : Char}

theorem splitOn_ne_nil (cs : List Char) : splitOn sep cs ≠ [] := by
  cases cs with
  | nil => exact List.cons_ne_nil _ _
  | cons c cs =>
    rw [splitOn]
    split
    · exact List.cons_ne_nil _ _
    · split <;> exact List.cons_ne_nil _ _

theorem not_mem_of_mem_splitOn {cs piece : List Char} (h : piece ∈ splitOn sep cs) :
    sep ∉ piece := by
  induction cs generalizing piece with
  | nil =>
    obtain rfl := List.mem_singleton.1 h
    exact List.not_mem_nil
  | cons c cs ih =>
    rw [splitOn] at h
    split at h
    · rcases List.mem_cons.1 h with rfl | h
      · exact List.not_mem_nil
      · exact ih h
    · next hc =>
      cases hs : splitOn sep cs with
      | nil => exact absurd hs (splitOn_ne_nil cs)
      | cons first more =>
        rw [hs] at h ih
        rcases List.mem_cons.1 h with rfl | h
        · rw [List.mem_cons, not_or]
          exact ⟨Ne.symm hc, ih List.mem_cons_self⟩
        · exact ih (List.mem_cons_of_mem _ h)

theorem join_cons_of_ne_nil {piece : List Char} {pieces : List (List Char)} (h : pieces ≠ []) :
    join [sep] (piece :: pieces) = piece ++ sep :: join [sep] pieces := by
  cases pieces with
  | nil => exact absurd rfl h
  | cons next more =>
    rw [join, List.append_assoc, List.singleton_append]
    exact List.cons_ne_nil _ _

theorem join_splitOn (cs : List Char) : join [sep] (splitOn sep cs) = cs := by
  induction cs with
  | nil => rfl
  | cons c cs ih =>
    rw [splitOn]
    split
    · next hc => rw [join_cons_of_ne_nil (splitOn_ne_nil cs), ih, hc, List.nil_append]
    · cases hs : splitOn sep cs with
      | nil => exact absurd hs (splitOn_ne_nil cs)
      | cons first more =>
        rw [hs] at ih
        cases more with
        | nil => exact congrArg (c :: ·) ih
        | cons next more =>
          rw [join_cons_of_ne_nil (List.cons_ne_nil _ _)] at ih ⊢
          rw [List.cons_append, ih]

theorem splitOn_of_not_mem {cs : List Char} (h : sep ∉ cs) : splitOn sep cs = [cs] := by
  induction cs with
  | nil => rfl
  | cons c cs ih =>
    rw [List.mem_cons, not_or] at h
    rw [splitOn, if_neg (Ne.symm h.1), ih h.2]

/-- The pieces are what joins to the text and has no separator inside. -/
theorem splitOn_eq_iff {cs : List Char} {pieces : List (List Char)} :
    splitOn sep cs = pieces ↔
      pieces ≠ [] ∧ (∀ piece ∈ pieces, sep ∉ piece) ∧ cs = join [sep] pieces := by
  constructor
  · rintro rfl
    exact ⟨splitOn_ne_nil cs, fun _ => not_mem_of_mem_splitOn, (join_splitOn cs).symm⟩
  · rintro ⟨hne, hpieces, rfl⟩
    induction pieces with
    | nil => exact absurd rfl hne
    | cons piece pieces ih =>
      have hpiece : sep ∉ piece := hpieces piece List.mem_cons_self
      by_cases hmore : pieces = []
      · subst hmore
        exact splitOn_of_not_mem hpiece
      · rw [join_cons_of_ne_nil hmore, splitOn_append_cons hpiece,
          ih hmore fun p hp => hpieces p (List.mem_cons_of_mem _ hp)]

end Text

theorem Path.slashesOf_eq_zero_iff {cs : List Char} :
    Path.slashesOf cs = 0 ↔ cs.head? ≠ some '/' := by
  cases cs with
  | nil => simp [slashesOf]
  | cons c cs =>
    by_cases hc : c = '/'
    · subst hc
      unfold slashesOf
      rw [List.takeWhile_cons_of_pos (by decide), List.length_cons]
      simp only [List.head?_cons, ne_eq, not_true_eq_false, iff_false]
      split <;> omega
    · simp [slashesOf, hc]

namespace TargetFiles

/-! ### What a filename is read as -/

/-- A separator as a slash. -/
def slashed (c : Char) : Char := if c = '\\' then '/' else c

/-- The filename is read as the names: they are the pieces between its slashes and backslashes that
are neither empty nor a single dot. -/
def ReadAs (filename : String) (names : List String) : Prop :=
  ∃ pieces : List (List Char), pieces ≠ [] ∧ (∀ piece ∈ pieces, '/' ∉ piece) ∧
    filename.toList.map slashed = Text.join ['/'] pieces ∧
    names = (pieces.filter fun piece => piece ≠ [] ∧ piece ≠ ['.']).map String.ofList

/-- The filename is relative, and the names that it is read as are some and do not lead upwards. -/
structure LeadsBelow (filename : String) (names : List String) : Prop where
  readAs : ReadAs filename names
  relative : ∀ c, filename.toList.head? = some c → c ≠ '/' ∧ c ≠ '\\'
  nonempty : names ≠ []
  notUp : ".." ∉ names

variable {filename : String} {names : List String}

theorem readAs_iff : ReadAs filename names ↔ (filePath filename).names = names := by
  have hread : (filePath filename).names =
      ((Text.splitOn '/' (filename.toList.map slashed)).filter Path.isName).map String.ofList := by
    rw [filePath, Path.ofText, String.toList_ofList]
    rfl
  have hname : (fun piece : List Char => decide (piece ≠ [] ∧ piece ≠ ['.'])) = Path.isName := by
    funext piece
    rw [Bool.eq_iff_iff]
    simp [Path.isName]
  rw [hread]
  constructor
  · rintro ⟨pieces, hne, hpieces, hjoin, rfl⟩
    rw [Text.splitOn_eq_iff.2 ⟨hne, hpieces, hjoin⟩, ← hname]
  · rintro rfl
    obtain ⟨hne, hpieces, hjoin⟩ := Text.splitOn_eq_iff.1
      (rfl : Text.splitOn '/' (filename.toList.map slashed) = _)
    exact ⟨_, hne, hpieces, hjoin, by rw [hname]⟩

theorem isAbsolute_filePath :
    (filePath filename).isAbsolute = false ↔
      ∀ c, filename.toList.head? = some c → c ≠ '/' ∧ c ≠ '\\' := by
  have hslashes : (filePath filename).slashes =
      Path.slashesOf (filename.toList.map slashed) := by
    rw [filePath, Path.ofText, String.toList_ofList]
    rfl
  rw [Path.isAbsolute, bne_eq_false_iff_eq, hslashes, Path.slashesOf_eq_zero_iff, List.head?_map]
  cases filename.toList.head? with
  | none => simp
  | some c =>
    by_cases hc : c = '\\' <;> simp [slashed, hc]

/-- The check of one filename is exact. -/
theorem inside?_eq_some_iff_leadsBelow :
    inside? filename = some names ↔ LeadsBelow filename names := by
  rw [inside?_eq_some_iff, Misplaced, not_or, not_or, Bool.not_eq_true, isAbsolute_filePath]
  constructor
  · rintro ⟨⟨hrelative, hup, hne⟩, rfl⟩
    exact ⟨readAs_iff.2 rfl, hrelative, hne, hup⟩
  · intro h
    obtain rfl := readAs_iff.1 h.readAs
    exact ⟨⟨h.relative, h.notUp, h.nonempty⟩, rfl⟩

example : inside? ".\\a\\\\./b//" = some ["a", "b"] := by decide

/-! ### What files are accepted as -/

/-- The filenames lead to places below a directory, each to one of its own. -/
structure Placeable (files : List TargetFile) : Prop where
  below : ∀ file ∈ files, ∃ names, LeadsBelow file.filename names
  apart : files.Pairwise fun a b =>
    ∀ names, ReadAs a.filename names → ¬ ReadAs b.filename names

variable {directory : Path}

/-- A destination is what the names of its file make of the directory. -/
theorem named_iff {d : Destination} : d.Named directory ↔
    ∃ names, LeadsBelow d.file.filename names ∧ d.path = directory.below names :=
  exists_congr fun _ => and_congr_left fun _ => inside?_eq_some_iff_leadsBelow

theorem exists_foldlM_addDestination_iff {files : List TargetFile} :
    (∃ ds, files.foldlM (addDestination directory) [] = .ok ds) ↔ Placeable files := by
  simp only [foldlM_addDestination_nil_eq_ok]
  constructor
  · rintro ⟨ds, rfl, hnamed, hnodup⟩
    refine ⟨?_, List.pairwise_map.2 ?_⟩
    · intro file hfile
      obtain ⟨d, hd, rfl⟩ := List.mem_map.1 hfile
      obtain ⟨names, hleads, -⟩ := named_iff.1 (hnamed d hd)
      exact ⟨names, hleads⟩
    · refine (List.pairwise_map.1 hnodup).imp_of_mem fun {d e} hd he hne names hread hread' => ?_
      -- files read as the same names would have the same destination
      obtain ⟨_, hleads, hp⟩ := named_iff.1 (hnamed d hd)
      obtain ⟨_, hleads', hp'⟩ := named_iff.1 (hnamed e he)
      obtain rfl := (readAs_iff.1 hleads.readAs).symm.trans (readAs_iff.1 hread)
      obtain rfl := (readAs_iff.1 hleads'.readAs).symm.trans (readAs_iff.1 hread')
      exact hne (hp.trans hp'.symm)
  · intro h
    refine ⟨files.map fun file => ⟨directory.below (filePath file.filename).names, file⟩,
      ?_, ?_, ?_⟩
    · rw [List.map_map]
      exact List.map_id _
    · intro d hd
      obtain ⟨file, hfile, rfl⟩ := List.mem_map.1 hd
      obtain ⟨names, hleads⟩ := h.below file hfile
      obtain rfl := readAs_iff.1 hleads.readAs
      exact named_iff.2 ⟨_, hleads, rfl⟩
    · rw [List.map_map]
      refine List.pairwise_map.2 (h.apart.imp fun hne hp => ?_)
      exact hne _ (readAs_iff.2 rfl) (readAs_iff.2 (Path.below_inj.1 hp).symm)

theorem addDestination_eq_error {claimed : List Destination} {file : TargetFile} {e : WriteError}
    (h : addDestination directory claimed file = .error e) :
    ((∀ names, ¬ LeadsBelow file.filename names) ∧ e = .outside file.filename) ∨
      ∃ names, LeadsBelow file.filename names ∧
        ∃ d ∈ claimed, d.path = directory.below names ∧
          e = .sameFile d.file.filename file.filename := by
  unfold addDestination at h
  split at h
  · next hnone =>
    cases h
    refine .inl ⟨fun names hleads => ?_, rfl⟩
    rw [inside?_eq_some_iff_leadsBelow.2 hleads] at hnone
    cases hnone
  · next names hsome =>
    split at h
    · next d hfound =>
      cases h
      have hpath : d.path = directory.below names := by simpa using List.find?_some hfound
      exact .inr ⟨names, inside?_eq_some_iff_leadsBelow.1 hsome, d,
        List.mem_of_find?_eq_some hfound, hpath, rfl⟩
    · cases h

/-- What the check of the destinations comes to, for any files and directory.  It accepts exactly
the files whose filenames lead to places of their own below the directory.  The destinations are
the directory followed by the names that each filename is read as, and all different.  The error is
that of the first file that does not lead below the directory or is read as the same names as one
before it, and a run that is refused changes nothing. -/
theorem destinations_exact (files : TargetFiles) (directory : Path) :
    ((∃ ds, files.destinations directory = .ok ds) ↔ Placeable files.toList) ∧
    (∀ ds, files.destinations directory = .ok ds →
      List.Forall₂ (fun file d => ∃ names, LeadsBelow file.filename names ∧
        d = ⟨{ directory with names := directory.names ++ names }, file⟩) files.toList ds ∧
      (ds.map Destination.path).Nodup) ∧
    ∀ e, files.destinations directory = .error e →
      (∃ before file after, files.toList = before ++ file :: after ∧ Placeable before ∧
        (((∀ names, ¬ LeadsBelow file.filename names) ∧ e = .outside file.filename) ∨
          ∃ names, LeadsBelow file.filename names ∧
            ∃ earlier ∈ before, ReadAs earlier.filename names ∧
              e = .sameFile earlier.filename file.filename)) ∧
      ∀ t, files.writeTree directory t = (.error (.rejected e), t) := by
  refine ⟨exists_foldlM_addDestination_iff, ?_, ?_⟩
  · intro ds hds
    obtain ⟨hfiles, hnamed, hnodup⟩ := destinations_eq_ok.1 hds
    refine ⟨?_, hnodup⟩
    rw [← hfiles, List.forall₂_map_left_iff, List.forall₂_same]
    intro d hd
    obtain ⟨names, hleads, hp⟩ := named_iff.1 (hnamed d hd)
    exact ⟨names, hleads, congrArg (Destination.mk · d.file) hp⟩
  · intro e he
    refine ⟨?_, fun t => by rw [writeTree, he]⟩
    obtain ⟨before, file, after, claimed, hfiles, hclaimed, he⟩ := Outcome.foldlM_eq_error.1 he
    refine ⟨before, file, after, hfiles,
      exists_foldlM_addDestination_iff.1 ⟨claimed, hclaimed⟩, ?_⟩
    refine (addDestination_eq_error he).imp_right ?_
    rintro ⟨names, hleads, d, hd, hp, rfl⟩
    obtain ⟨rfl, hnamed, -⟩ := foldlM_addDestination_nil_eq_ok.1 hclaimed
    obtain ⟨_, hearlier, hp'⟩ := named_iff.1 (hnamed d hd)
    obtain rfl := Path.below_inj.1 (hp.symm.trans hp')
    exact ⟨_, hleads, d.file, List.mem_map_of_mem hd, hearlier.readAs, rfl⟩

end TargetFiles
end ApiScribe
