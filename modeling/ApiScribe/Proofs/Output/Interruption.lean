import ApiScribe.Generation.Output
import ApiScribe.Proofs.FileTree.NullCharacters

/-!
# Null characters in the names of generated files

Writing generated files has words for every refusal and none for a null character.  It is
interrupted exactly if one is met: in the path of the directory, or in the path of a file when all
before it are written (`writeTree_eq_interrupted`).
-/

namespace ApiScribe.TargetFiles

open FileTree.Action

variable {t : FileTree} {directory : Path} {ds : List Destination}

theorem alwaysOrdinary_recreate :
    AlwaysOrdinary ('\x00' ∈ directory.text.toList) (recreate directory) := by
  intro t ht
  unfold recreate
  rw [holdsAt_get_bind]
  split
  · next e h =>
    refine holdsAt_throw ht ?_
    unfold FileTree.hasEntry at h
    split at h <;> cases h
    exact .inl ⟨_, _, rfl⟩
  · next found h =>
    have hmake : AlwaysOrdinary ('\x00' ∈ directory.text.toList)
        (makeDirectories false directory) := alwaysOrdinary_makeDirectories
    cases found with
    | true => exact (alwaysOrdinary_removeTree.bind fun _ => hmake) t ht
    | false => exact hmake t ht

theorem fails_recreate_iff : (∃ t', Fails (recreate directory) t .nullCharacter t') ↔
    '\x00' ∈ directory.text.toList := by
  constructor
  · rintro ⟨t', h⟩
    rcases h.ordinary alwaysOrdinary_recreate with ⟨r, shown, he⟩ | ⟨-, h⟩
    · cases he
    · exact h
  · intro h
    -- such a path has no entry, so it is the making of the directory that fails
    have hentry : t.hasEntry directory = .ok false := by
      unfold FileTree.hasEntry
      rw [FileTree.locate_of_null h]
    refine ⟨t, ?_⟩
    unfold recreate
    rw [fails_get_bind, hentry]
    exact fails_makeDirectories_of_null h

/-- Writing files meets a null character at the first file whose path has one, if all before it are
written. -/
theorem fails_writeEach_iff : (∃ t', Fails (writeEach ds) t .nullCharacter t') ↔
    ∃ before d after t₁, ds = before ++ d :: after ∧ Succeeds (writeEach before) t () t₁ ∧
      NullCounts t₁ d.path := by
  -- over the files, in the tree that those before have left
  induction ds generalizing t with
  | nil =>
    constructor
    · rintro ⟨t', h⟩
      cases h
    · rintro ⟨before, d, after, t₁, h, -⟩
      cases before <;> cases h
  | cons d ds ih =>
    unfold writeEach
    simp only [fails_bind]
    rw [exists_or]
    constructor
    · rintro (h | ⟨t', u, t₁, hs, hf⟩)
      · exact ⟨[], d, ds, t, rfl, rfl, (fails_store_iff _).1 h⟩
      · obtain ⟨before, d', after, t₂, rfl, hs', h⟩ := ih.1 ⟨t', hf⟩
        exact ⟨d :: before, d', after, t₂, rfl, hs.bind hs', h⟩
    · rintro ⟨before, d', after, t₂, h, hs, hnull⟩
      cases before with
      | nil =>
        cases h
        cases hs
        exact .inl ((fails_store_iff _).2 hnull)
      | cons x before =>
        cases h
        obtain ⟨u, t₁, hs₁, hs₂⟩ := hs.exists_of_bind
        obtain ⟨t', hf⟩ := ih.2 ⟨before, d', after, t₂, rfl, hs₂, hnull⟩
        exact .inr ⟨t', u, t₁, hs₁, hf⟩

theorem alwaysOrdinary_writeEach : AlwaysOrdinary True (writeEach ds) := by
  induction ds with
  | nil => exact fun t ht => holdsAt_pure ht
  | cons d ds ih => exact (alwaysOrdinary_store.mono fun _ => trivial).bind fun _ => ih

/-- A null character is met when generated files are written. -/
inductive Unwritable (files : TargetFiles) (directory : Path) (t : FileTree) : Prop
  | directory {ds : List Destination} (hds : files.destinations directory = .ok ds)
      (h : '\x00' ∈ directory.text.toList)
  | file {before after : List Destination} {d : Destination} {t₁ t₂ : FileTree}
      (hds : files.destinations directory = .ok (before ++ d :: after))
      (hmade : Succeeds (recreate directory) t () t₁)
      (hbefore : Succeeds (writeEach before) t₁ () t₂) (h : NullCounts t₂ d.path)

theorem fails_iff_unwritable {files : TargetFiles} (hds : files.destinations directory = .ok ds) :
    (∃ t', Fails (do recreate directory; writeEach ds) t .nullCharacter t') ↔
      Unwritable files directory t := by
  simp only [fails_bind]
  rw [exists_or, fails_recreate_iff]
  constructor
  · rintro (h | ⟨t', u, t₁, hs, hf⟩)
    · exact .directory hds h
    · obtain ⟨before, d, after, t₂, rfl, hbefore, h⟩ := fails_writeEach_iff.1 ⟨t', hf⟩
      exact .file hds hs hbefore h
  · intro h
    cases h with
    | directory _ h => exact .inl h
    | @file before after d t₁ t₂ hds' hs hbefore h =>
      cases hds.symm.trans hds'
      obtain ⟨t', hf⟩ := fails_writeEach_iff.2 ⟨before, d, after, t₂, rfl, hbefore, h⟩
      exact .inr ⟨t', (), t₁, hs, hf⟩

/-- Writing generated files is interrupted exactly if a null character is met. -/
theorem writeTree_eq_interrupted {files : TargetFiles} {i : Interruption} :
    (files.writeTree directory t).1 = .error (.interrupted i) ↔
      Unwritable files directory t ∧ i = .nullCharacter := by
  unfold writeTree
  cases hds : files.destinations directory with
  | error e =>
    constructor
    · intro h
      cases h
    · rintro ⟨h, -⟩
      cases h with
      | directory h => cases hds.symm.trans h
      | file h => cases hds.symm.trans h
  | ok ds =>
    have haction : AlwaysOrdinary True (do recreate directory; writeEach ds) :=
      (alwaysOrdinary_recreate.mono fun _ => trivial).bind fun _ => alwaysOrdinary_writeEach
    rw [← fails_iff_unwritable hds]
    dsimp only
    rcases hrun : (do recreate directory; writeEach ds : FileTree.Action Unit).run.run t with
      ⟨e | u, t'⟩
    · exact Fails.interrupted_iff hrun haction
    · constructor
      · intro h
        cases h
      · rintro ⟨h, -⟩
        exact absurd h (Succeeds.not_fails hrun)

end ApiScribe.TargetFiles
