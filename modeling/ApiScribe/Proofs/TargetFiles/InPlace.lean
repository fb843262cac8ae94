import ApiScribe.Proofs.TargetFiles

/-!
# Collections that are changed in place

`insert` and `insertAll` give a new collection or none, so that a failure cannot do harm.  A
collection that is kept in one place and changed there has more to go wrong: files are set one after
the other, one that is there would be overwritten, and what was set before a failure stays.  The
steps of this module are programs of that kind (`Step.inPlace`).  Each does what `insert` and
`insertAll` say (`Step.inPlace_of_ok`), and one that fails has set nothing
(`Step.inPlace_of_error`).

Main statement: `steps_accumulate` — after any steps, failures among them, the files are those of
the steps that succeeded, one after the other.
-/

namespace ApiScribe.TargetFiles

/-! ### Programs on files -/

/-- A program on the files of a collection.  What it has set before a failure stays. -/
abbrev InPlace := ExceptT ResolveError (StateM (List TargetFile))

/-- The outcome of a program, and the files after it. -/
def InPlace.on {α : Type} (x : InPlace α) (files : List TargetFile) :
    Except ResolveError α × List TargetFile :=
  x.run.run files

/-- The files with one set: in the place of the file that has its name, otherwise at the end. -/
def set (file : TargetFile) : List TargetFile → List TargetFile
  | [] => [file]
  | first :: files =>
    if first.filename = file.filename then file :: files else first :: set file files

/-- Sets a file, unless one has its name. -/
def insertInPlace (file : TargetFile) : InPlace Unit := do
  if file.filename ∈ (← get).map TargetFile.filename then
    throw (.duplicateFilename file.filename)
  else
    modify (set file)

/-- Sets files one after the other, unless some of their names are there. -/
def insertAllInPlace (other : List TargetFile) : InPlace Unit := do
  let present := (← get).map TargetFile.filename
  let shared := (other.map TargetFile.filename).filter (present.contains ·)
  if shared = [] then
    other.forM fun file => modify (set file)
  else
    throw (.duplicateFilenames shared)

/-- A step on a collection: with a file, with another collection, or with the collection itself. -/
inductive Step where
  | insert (file : TargetFile)
  | insertAll (batch : TargetFiles)
  | insertSelf

namespace Step

/-- The step as a program. -/
def inPlace : Step → InPlace Unit
  | .insert file => insertInPlace file
  | .insertAll batch => insertAllInPlace batch.toList
  | .insertSelf => do insertAllInPlace (← get)

/-- The collection that the step gives. -/
def outcome (t : TargetFiles) : Step → Except ResolveError TargetFiles
  | .insert file => t.insert file
  | .insertAll batch => t.insertAll batch
  | .insertSelf => t.insertAll t

/-- The files that the step is to add. -/
def files (t : TargetFiles) : Step → List TargetFile
  | .insert file => [file]
  | .insertAll batch => batch.toList
  | .insertSelf => t.toList

end Step

/-! ### One step -/

theorem set_of_notMem {file : TargetFile} {files : List TargetFile}
    (h : file.filename ∉ files.map TargetFile.filename) : set file files = files ++ [file] := by
  induction files with
  | nil => rfl
  | cons first files ih =>
    rw [List.map_cons, List.mem_cons, not_or] at h
    rw [set, if_neg (Ne.symm h.1), ih h.2, List.cons_append]

/-- Files of new names are set at the end, in order. -/
theorem on_forM_set {files other : List TargetFile}
    (h : ((files ++ other).map TargetFile.filename).Nodup) :
    (other.forM fun file => (modify (set file) : InPlace Unit)).on files =
      (.ok (), files ++ other) := by
  induction other generalizing files with
  | nil =>
    rw [List.append_nil]
    rfl
  | cons file other ih =>
    rw [← List.singleton_append, ← List.append_assoc] at h ⊢
    have hnew : file.filename ∉ files.map TargetFile.filename := by
      rw [List.map_append, List.map_append, List.nodup_append, List.nodup_append] at h
      intro hmem
      exact h.1.2.2 _ hmem _ (List.mem_singleton.2 rfl) rfl
    rw [← ih h, ← set_of_notMem hnew]
    rfl

theorem on_get_bind {α : Type} (f : List TargetFile → InPlace α) (files : List TargetFile) :
    (get >>= f : InPlace α).on files = (f files).on files := rfl

theorem on_insertInPlace (file : TargetFile) (files : List TargetFile) :
    (insertInPlace file).on files =
      if file.filename ∈ files.map TargetFile.filename then
        (.error (.duplicateFilename file.filename), files)
      else (.ok (), set file files) := by
  unfold insertInPlace
  rw [on_get_bind]
  split <;> rfl

section
variable {t t' other : TargetFiles} {e : ResolveError}

theorem on_insertAllInPlace :
    (insertAllInPlace other.toList).on t.toList =
      if t.shared other = [] then
        (other.toList.forM fun file => (modify (set file) : InPlace Unit)).on t.toList
      else (.error (.duplicateFilenames (t.shared other)), t.toList) := by
  unfold insertAllInPlace
  rw [on_get_bind]
  -- the names that the program finds shared are those of `shared`, by definition
  show InPlace.on (if t.shared other = [] then _ else _) _ = _
  split <;> rfl

/-- Files that are added together are set one after the other, each at the end. -/
theorem insertAllInPlace_of_ok (h : t.insertAll other = .ok t') :
    (insertAllInPlace other.toList).on t.toList = (.ok (), t'.toList) := by
  have hlist := insertAll_eq_ok.1 h
  have hdistinct : ((t.toList ++ other.toList).map TargetFile.filename).Nodup :=
    hlist ▸ t'.distinct
  rw [on_insertAllInPlace, if_pos (shared_eq_nil_of_insertAll h), on_forM_set hdistinct, hlist]

/-- Files that are refused together are refused before the first is set. -/
theorem insertAllInPlace_of_error (h : t.insertAll other = .error e) :
    (insertAllInPlace other.toList).on t.toList = (.error e, t.toList) := by
  obtain ⟨hshared, rfl⟩ := insertAll_eq_error.1 h
  rw [on_insertAllInPlace, if_neg hshared]

namespace Step

variable {step : Step}

theorem outcome_eq_ok : step.outcome t = .ok t' ↔ t'.toList = t.toList ++ step.files t := by
  cases step with
  | insert file => exact insert_eq_ok
  | insertAll batch => exact insertAll_eq_ok
  | insertSelf => exact insertAll_eq_ok

/-- A step that gives a collection makes its files of those that are there. -/
theorem inPlace_of_ok (h : step.outcome t = .ok t') :
    step.inPlace.on t.toList = (.ok (), t'.toList) := by
  cases step with
  | insert file =>
    have hnew : file.filename ∉ t.toList.map TargetFile.filename := not_mem_of_insert h
    rw [inPlace, on_insertInPlace, if_neg hnew, set_of_notMem hnew, insert_eq_ok.1 h]
  | insertAll batch => exact insertAllInPlace_of_ok h
  | insertSelf => exact insertAllInPlace_of_ok h

/-- A step that fails leaves the files as they are. -/
theorem inPlace_of_error (h : step.outcome t = .error e) :
    step.inPlace.on t.toList = (.error e, t.toList) := by
  cases step with
  | insert file =>
    obtain ⟨hmem, rfl⟩ := insert_eq_error.1 h
    have hthere : file.filename ∈ t.toList.map TargetFile.filename := hmem
    rw [inPlace, on_insertInPlace, if_pos hthere]
  | insertAll batch => exact insertAllInPlace_of_error h
  | insertSelf => exact insertAllInPlace_of_error h

end Step
end

/-! ### Many steps -/

/-- The collection after steps, of which each goes on with what there is, also after a failure. -/
def after (t : TargetFiles) : List Step → TargetFiles
  | [] => t
  | step :: steps =>
    match step.outcome t with
    | .ok t' => t'.after steps
    | .error _ => t.after steps

/-- The files of the steps that succeed, one step after the other. -/
def added (t : TargetFiles) : List Step → List TargetFile
  | [] => []
  | step :: steps =>
    match step.outcome t with
    | .ok t' => step.files t ++ t'.added steps
    | .error _ => t.added steps

/-- The files after steps that change them in place. -/
def filesAfter (files : List TargetFile) (steps : List Step) : List TargetFile :=
  steps.foldl (fun files step => (step.inPlace.on files).2) files

theorem toList_after (t : TargetFiles) (steps : List Step) :
    (t.after steps).toList = t.toList ++ t.added steps := by
  induction steps generalizing t with
  | nil => exact (List.append_nil _).symm
  | cons step steps ih =>
    rw [after, added]
    cases h : step.outcome t with
    | error e => exact ih t
    | ok t' =>
      show (t'.after steps).toList = t.toList ++ (step.files t ++ t'.added steps)
      rw [ih, Step.outcome_eq_ok.1 h, List.append_assoc]

theorem filesAfter_eq (t : TargetFiles) (steps : List Step) :
    filesAfter t.toList steps = (t.after steps).toList := by
  induction steps generalizing t with
  | nil => rfl
  | cons step steps ih =>
    rw [filesAfter, List.foldl_cons, after]
    cases h : step.outcome t with
    | error e =>
      rw [Step.inPlace_of_error h]
      exact ih t
    | ok t' =>
      rw [Step.inPlace_of_ok h]
      exact ih t'

/-- What steps make of an empty collection, with failures anywhere among them.

At every moment the filenames are distinct and the files are those of the steps that succeeded, in
order; changing them in place comes to the same.  A step that fails has changed nothing.  A file is
refused exactly if its name is there, a collection exactly if it shares a name; the error lists the
shared names, each once and in the order of that collection.  Otherwise adding the collection is
adding its files one by one. -/
theorem steps_accumulate (steps : List Step) :
    let t := empty.after steps
    (t.filenames.Nodup ∧ t.toList = empty.added steps ∧ filesAfter [] steps = t.toList) ∧
    (∀ step e, Step.outcome t step = .error e → step.inPlace.on t.toList = (.error e, t.toList)) ∧
    (∀ step t', Step.outcome t step = .ok t' →
      step.inPlace.on t.toList = (.ok (), t'.toList) ∧
        t'.toList = t.toList ++ step.files t) ∧
    (∀ file e, t.insert file = .error e ↔
      file.filename ∈ t.filenames ∧ e = .duplicateFilename file.filename) ∧
    (∀ other, (∃ e, t.insertAll other = .error e) ↔
      ∃ name ∈ other.filenames, name ∈ t.filenames) ∧
    (∀ other e, t.insertAll other = .error e →
      ∃ names, e = .duplicateFilenames names ∧ names.Nodup ∧ names.Sublist other.filenames ∧
        ∀ name, name ∈ names ↔ name ∈ other.filenames ∧ name ∈ t.filenames) ∧
    ∀ other t', t.insertAll other = .ok t' ↔ t.insertEach other.toList = .ok t' := by
  refine ⟨⟨(empty.after steps).distinct, toList_after empty steps, filesAfter_eq empty steps⟩,
    fun _ _ => Step.inPlace_of_error, ?_, fun _ _ => insert_eq_error, ?_, ?_, ?_⟩
  · intro step t' h
    exact ⟨Step.inPlace_of_ok h, Step.outcome_eq_ok.1 h⟩
  · intro other
    constructor
    · rintro ⟨e, h⟩
      obtain ⟨name, hname⟩ := List.exists_mem_of_ne_nil _ (insertAll_eq_error.1 h).1
      exact ⟨name, mem_shared.1 hname⟩
    · rintro ⟨name, hname⟩
      exact ⟨_, insertAll_eq_error.2 ⟨List.ne_nil_of_mem (mem_shared.2 hname), rfl⟩⟩
  · intro other e h
    obtain ⟨-, rfl⟩ := insertAll_eq_error.1 h
    exact ⟨_, rfl, nodup_shared, shared_sublist, fun _ => mem_shared⟩
  · intro other t'
    rw [insertAll_eq_ok, insertEach_eq_ok]

/-- The second file of this name is refused, and the collection with itself; both change nothing. -/
example : filesAfter [] [.insertSelf, .insert ⟨"a", "1"⟩, .insert ⟨"a", "2"⟩, .insertSelf,
    .insert ⟨"b", "3"⟩] = [⟨"a", "1"⟩, ⟨"b", "3"⟩] := by
  decide

end ApiScribe.TargetFiles
