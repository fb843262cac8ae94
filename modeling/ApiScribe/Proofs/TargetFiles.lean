import ApiScribe.Generation.TargetFiles

/-!
# Adding to a collection of files

A collection carries the proof that its filenames are distinct, so a step that succeeds is
described by the files alone: `insert_eq_ok`, `insertEach_eq_ok`, `insertAll_eq_ok`.  A step fails
for the filenames that are there already, and names them: `insert_eq_error`, `insertAll_eq_error`,
with `shared_sublist` and `mem_shared` on which these are.
-/

namespace ApiScribe.TargetFiles

variable {t t' other : TargetFiles}

theorem ext_toList (h : t.toList = t'.toList) : t = t' := by
  cases t
  cases t'
  cases h
  rfl

theorem filenames_of_toList {files : List TargetFile} (h : t'.toList = t.toList ++ files) :
    t'.filenames = t.filenames ++ files.map TargetFile.filename := by
  unfold filenames
  rw [h, List.map_append]

/-- What is at the beginning of a collection has distinct filenames. -/
theorem distinct_of_prefix {files : List TargetFile} (h : files <+: t.toList) :
    (files.map TargetFile.filename).Nodup :=
  t.distinct.sublist (h.sublist.map _)

/-- A file that comes after those of a collection has a name of its own. -/
theorem not_mem_of_toList {files : List TargetFile} (h : t'.toList = t.toList ++ files)
    {file : TargetFile} (hfile : file ∈ files) : file.filename ∉ t.filenames := by
  intro hmem
  have hd := t'.distinct
  rw [h, List.map_append, List.nodup_append] at hd
  exact hd.2.2 _ hmem _ (List.mem_map_of_mem hfile) rfl

/-! ### One file -/

/-- A file is added exactly when the collection with it at the end is one. -/
theorem insert_eq_ok {file : TargetFile} :
    t.insert file = .ok t' ↔ t'.toList = t.toList ++ [file] := by
  unfold insert
  split
  · next hm =>
    constructor
    · intro h
      cases h
    · intro h
      exact absurd hm (not_mem_of_toList h (List.mem_singleton.2 rfl))
  · constructor
    · intro h
      cases h
      rfl
    · intro h
      exact congrArg Except.ok (ext_toList h.symm)

/-- A file is refused for its name. -/
theorem insert_eq_error {file : TargetFile} {e : ResolveError} :
    t.insert file = .error e ↔
      file.filename ∈ t.filenames ∧ e = .duplicateFilename file.filename := by
  unfold insert
  split
  · next hm => simp [hm, eq_comm]
  · next hm => simp [hm]

/-- A file that was added has its name after those before it. -/
theorem filenames_of_insert {file : TargetFile} (h : t.insert file = .ok t')
    (names : List String) : t'.filenames ++ names = t.filenames ++ file.filename :: names := by
  rw [filenames_of_toList (insert_eq_ok.1 h), List.append_assoc]
  rfl

theorem not_mem_of_insert {file : TargetFile} (h : t.insert file = .ok t') :
    file.filename ∉ t.filenames := by
  intro hmem
  rw [insert_eq_error.2 ⟨hmem, rfl⟩] at h
  cases h

/-- Files are added one by one exactly when the collection with all of them at the end is one. -/
theorem insertEach_eq_ok {files : List TargetFile} :
    t.insertEach files = .ok t' ↔ t'.toList = t.toList ++ files := by
  induction files generalizing t with
  | nil =>
    rw [insertEach, List.append_nil, Except.ok.injEq]
    exact ⟨fun h => h ▸ rfl, fun h => ext_toList h.symm⟩
  | cons file files ih =>
    rw [insertEach]
    cases hfile : t.insert file with
    | ok middle =>
      show middle.insertEach files = .ok t' ↔ _
      rw [ih, insert_eq_ok.1 hfile, List.append_assoc, List.singleton_append]
    | error e =>
      constructor
      · intro h
        cases h
      · intro h
        exact absurd (insert_eq_error.1 hfile).1 (not_mem_of_toList h List.mem_cons_self)

/-! ### Another collection -/

theorem mem_shared {name : String} :
    name ∈ t.shared other ↔ name ∈ other.filenames ∧ name ∈ t.filenames := by
  unfold shared
  rw [List.mem_filter, List.contains_iff_mem]

/-- The shared names stand in the order of the other collection. -/
theorem shared_sublist : (t.shared other).Sublist other.filenames := List.filter_sublist

theorem nodup_shared : (t.shared other).Nodup := shared_sublist.nodup other.distinct

/-- Files are added together exactly when the collection with all of them at the end is one. -/
theorem insertAll_eq_ok : t.insertAll other = .ok t' ↔ t'.toList = t.toList ++ other.toList := by
  unfold insertAll
  split
  · constructor
    · intro h
      cases h
      rfl
    · intro h
      exact congrArg Except.ok (ext_toList h.symm)
  · next hs =>
    constructor
    · intro h
      cases h
    · intro h
      refine absurd (List.filter_eq_nil_iff.2 fun name hname hthere => ?_) hs
      obtain ⟨file, hfile, rfl⟩ := List.mem_map.1 hname
      exact not_mem_of_toList h hfile (List.contains_iff_mem.1 hthere)

/-- Files are refused together for the names among them that are there. -/
theorem insertAll_eq_error {e : ResolveError} :
    t.insertAll other = .error e ↔
      t.shared other ≠ [] ∧ e = .duplicateFilenames (t.shared other) := by
  unfold insertAll
  split
  · next hs => simp [hs]
  · next hs => simp [hs, eq_comm]

theorem shared_eq_nil_of_insertAll (h : t.insertAll other = .ok t') : t.shared other = [] := by
  cases hs : t.shared other with
  | nil => rfl
  | cons name names =>
    rw [insertAll_eq_error.2 ⟨hs ▸ List.cons_ne_nil name names, rfl⟩] at h
    cases h

end ApiScribe.TargetFiles
