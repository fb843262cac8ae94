import ApiScribe.Proofs.CommandLine.Session

/-!
# Reports and exit codes

What a session prints for the user's eyes are notes and, last, reports of errors.  A session reports
an error exactly if it ends with code 1; it never reports one and goes on, and an interruption
leaves no report.  `Reporting` says this of a session from any console on, and is kept when sessions
are put together.
-/

namespace ApiScribe.CommandLine.Session

variable {α β ε : Type} {c c' c'' : Console} {isNote : String → Prop}

/-- Notes and reports of errors were printed, the reports last. -/
def Tells (notes errors : List String) (c c' : Console) : Prop :=
  c'.err = c.err ++ ofLines (notes ++ errors.map ("Error: " ++ ·))

/-- A session that goes on has printed notes; one that ends has reported an error and ends with code
1, or it is interrupted without a report. -/
def Reporting (isNote : String → Prop) (m : Session α) : Prop :=
  ∀ c, (∀ a c', Yields m c a c' → ∃ notes, (∀ note ∈ notes, isNote note) ∧ Tells notes [] c c') ∧
    ∀ e c', Ends m c e c' → ∃ notes errors, (∀ note ∈ notes, isNote note) ∧
      Tells notes errors c c' ∧
      ((e = .exit 1 ∧ errors ≠ []) ∨ ∃ i, e = .interrupted i ∧ errors = [])

theorem ofLines_append (lines more : List String) :
    ofLines (lines ++ more) = ofLines lines ++ ofLines more := by
  simp [ofLines, String.join_append]

theorem tells_self : Tells [] [] c c := by
  show c.err = c.err ++ ofLines []
  rw [show ofLines [] = "" from rfl, String.append_empty]

theorem Tells.append {notes notes' errors : List String} (h : Tells notes [] c c')
    (h' : Tells notes' errors c' c'') : Tells (notes ++ notes') errors c c'' := by
  unfold Tells at *
  rw [h', h, List.map_nil, List.append_nil, List.append_assoc, ofLines_append notes,
    String.append_assoc]

theorem Reporting.bind {m : Session α} {f : α → Session β} (hm : Reporting isNote m)
    (hf : ∀ a, Reporting isNote (f a)) : Reporting isNote (m >>= f) := by
  intro c
  -- what `f` prints comes after what `m` prints; if `m` reports an error, `f` is not run
  refine ⟨?_, ?_⟩
  · intro b c'' h
    obtain ⟨a, c', hm', hf'⟩ := yields_bind.1 h
    obtain ⟨notes, hnotes, htells⟩ := (hm c).1 a c' hm'
    obtain ⟨notes', hnotes', htells'⟩ := (hf a c').1 b c'' hf'
    exact ⟨notes ++ notes', List.forall_mem_append.2 ⟨hnotes, hnotes'⟩, htells.append htells'⟩
  · intro e c'' h
    rcases ends_bind.1 h with hm' | ⟨a, c', hm', hf'⟩
    · exact (hm c).2 e c'' hm'
    · obtain ⟨notes, hnotes, htells⟩ := (hm c).1 a c' hm'
      obtain ⟨notes', errors, hnotes', htells', hending⟩ := (hf a c').2 e c'' hf'
      exact ⟨notes ++ notes', errors, List.forall_mem_append.2 ⟨hnotes, hnotes'⟩,
        htells.append htells', hending⟩

/-! ### Single steps -/

/-- A session that always goes on and prints nothing for the user's eyes. -/
theorem reporting_of_yields {m : Session α} (hends : ∀ c e c', ¬ Ends m c e c')
    (hyields : ∀ c a c', Yields m c a c' → c'.err = c.err) : Reporting isNote m := by
  intro c
  refine ⟨?_, fun e c' h => absurd h (hends c e c')⟩
  intro a c' h
  refine ⟨[], List.forall_mem_nil _, ?_⟩
  unfold Tells
  rw [hyields c a c' h]
  exact tells_self

theorem reporting_pure {a : α} : Reporting isNote (pure a) :=
  reporting_of_yields (fun _ _ _ => not_ends_pure) fun _ _ _ h => by rw [(yields_pure.1 h).2]

theorem reporting_print {line : String} : Reporting isNote (print line) :=
  reporting_of_yields (fun _ _ _ => not_ends_print) fun _ _ _ h => by rw [yields_print.1 h]

theorem reporting_note {line : String} (h : isNote line) : Reporting isNote (note line) := by
  intro c
  refine ⟨?_, fun e c' h => absurd h not_ends_note⟩
  intro u c' hy
  refine ⟨[line], List.forall_mem_singleton.2 h, ?_⟩
  rw [yields_note.1 hy]
  simp [Tells, ofLines, String.append_assoc]

theorem reporting_interrupt {i : Interruption} :
    Reporting isNote (throw (.interrupted i) : Session α) := by
  intro c
  refine ⟨fun a c' h => absurd h not_yields_throw, ?_⟩
  intro e c' h
  obtain ⟨rfl, rfl⟩ := ends_throw.1 h
  exact ⟨[], [], List.forall_mem_nil _, tells_self, .inr ⟨i, rfl, rfl⟩⟩

theorem tells_reported {message : String} : Tells [] [message] c (reported message c) := by
  simp [Tells, reported, ofLines, String.append_assoc]

theorem reporting_ofStage {message : ε → String} {x : Except (Failure ε) α} :
    Reporting isNote (ofStage message x) := by
  intro c
  refine ⟨?_, ?_⟩
  · intro a c' h
    rw [(yields_ofStage.1 h).2]
    exact ⟨[], List.forall_mem_nil _, tells_self⟩
  · intro e c' h
    rcases ends_ofStage.1 h with ⟨r, -, rfl, rfl⟩ | ⟨i, -, rfl, rfl⟩
    · exact ⟨[], [message r], List.forall_mem_nil _, tells_reported,
        .inl ⟨rfl, List.cons_ne_nil _ _⟩⟩
    · exact ⟨[], [], List.forall_mem_nil _, tells_self, .inr ⟨i, rfl, rfl⟩⟩

theorem reporting_reading {message : ε → String} {stage : FileTree → Except (Failure ε) α} :
    Reporting isNote (reading message stage) :=
  fun c => reporting_ofStage c

theorem reporting_writing {message : ε → String}
    {stage : FileTree → Except (Failure ε) α × FileTree} :
    Reporting isNote (writing message stage) :=
  fun c => reporting_ofStage { c with files := (stage c.files).2 }

theorem reporting_pathOf {value : String} : Reporting isNote (pathOf value) := by
  unfold pathOf
  split
  · exact reporting_interrupt
  · exact reporting_pure

/-! ### Commands -/

/-- The note about a model that was loaded. -/
def loadedNote (p : Path) (api : Api) : String :=
  "Loaded " ++ toString api.dtos.length ++ " DTO(s) and " ++ toString api.methods.length ++
    " method(s) from '" ++ p.text ++ "'."

/-- The line is the note about a model loaded from the document. -/
def IsLoadedNote (document line : String) : Prop :=
  ∃ api, line = loadedNote (Path.ofText document) api

variable {document heading : String}

theorem reporting_load : Reporting (IsLoadedNote document) (load document heading) :=
  reporting_reading.bind fun api => (reporting_note ⟨api, rfl⟩).bind fun _ => reporting_pure

theorem reporting_generate {configuration output : String} {templates : Option String} :
    Reporting (IsLoadedNote document)
      (generate document heading configuration templates output) := by
  have htemplates (p : Path) : Reporting (IsLoadedNote document) (templatesOf templates p) := by
    unfold templatesOf
    split
    · exact reporting_pathOf
    · exact reporting_pure
  rw [generate_eq]
  refine reporting_pathOf.bind fun p => (htemplates p).bind fun _ => ?_
  refine reporting_pathOf.bind fun _ => ?_
  unfold generateAt
  refine reporting_reading.bind fun c => reporting_load.bind fun api => ?_
  refine reporting_reading.bind fun set => reporting_ofStage.bind fun files => ?_
  exact reporting_writing.bind fun _ => reporting_print

theorem reporting_scrape {output : Option String} :
    Reporting (IsLoadedNote document) (scrape document heading output) := by
  refine reporting_load.bind fun api => ?_
  cases output with
  | none =>
    dsimp only
    split
    · exact reporting_print
    · exact reporting_interrupt
  | some output =>
    exact reporting_pathOf.bind fun p => reporting_writing.bind fun _ => reporting_print

/-- A change of the console for each of some items. -/
theorem run_forM (items : List α) {act : α → Session Unit} (change : α → Console → Console)
    (h : ∀ a c, (act a).run.run c = (.ok (), change a c)) :
    (items.forM act).run.run c = (.ok (), items.foldl (fun c a => change a c) c) := by
  induction items generalizing c with
  | nil => rfl
  | cons a items ih =>
    show (act a >>= fun _ => items.forM act).run.run c = _
    rw [Outcome.run_bind_of_ok (h a c)]
    exact ih

theorem foldl_out {items : List α} {text : α → String} :
    items.foldl (fun c a => { c with out := c.out ++ text a ++ "\n" }) c =
      { c with out := c.out ++ ofLines (items.map text) } := by
  induction items generalizing c with
  | nil => simp [ofLines]
  | cons a items ih =>
    rw [List.foldl_cons, ih]
    simp [ofLines, String.join_cons, String.append_assoc]

theorem foldl_reported {items : List α} {message : α → String} :
    items.foldl (fun c a => reported (message a) c) c =
      { c with err := c.err ++ ofLines (items.map fun a => "Error: " ++ message a) } := by
  induction items generalizing c with
  | nil => simp [ofLines]
  | cons a items ih =>
    rw [List.foldl_cons, ih]
    simp [reported, ofLines, String.join_cons, String.append_assoc]

/-- The console with the reports of defects. -/
def withDefects (defects : List Defect) (c : Console) : Console :=
  defects.foldl (fun c defect => reported defect.message c) c

theorem withDefects_eq {defects : List Defect} : withDefects defects c =
    { c with err := c.err ++ ofLines (defects.map fun defect => "Error: " ++ defect.message) } :=
  foldl_reported

theorem tells_withDefects {defects : List Defect} :
    Tells [] (defects.map Defect.message) c (withDefects defects c) := by
  unfold Tells
  rw [withDefects_eq, List.nil_append, List.map_map]
  rfl

/-- The end of a check: the defects are reported, and there is code 1 for them. -/
def endOfCheck (findings : Findings) : Session Unit := do
  findings.defects.forM fun defect => reportError defect.message
  if findings.hasDefects then throw (.exit 1)
  print "No issues found."

theorem run_reports (defects : List Defect) :
    (defects.forM fun defect => reportError defect.message).run.run c =
      (.ok (), withDefects defects c) := by
  have hreport (defect : Defect) (c : Console) :
      (reportError defect.message).run.run c = (.ok (), reported defect.message c) := rfl
  exact run_forM _ _ hreport

theorem run_endOfCheck (findings : Findings) (c : Console) :
    (endOfCheck findings).run.run c =
      if findings.hasDefects then (.error (.exit 1), withDefects findings.defects c)
      else (.ok (), { withDefects findings.defects c with
        out := (withDefects findings.defects c).out ++ "No issues found." ++ "\n" }) := by
  unfold endOfCheck
  rw [Outcome.run_bind_of_ok (run_reports _)]
  cases findings.hasDefects with
  | true => rfl
  | false => rfl

theorem reporting_endOfCheck (findings : Findings) : Reporting isNote (endOfCheck findings) := by
  intro c
  have htells : Tells [] (findings.defects.map Defect.message) c (withDefects findings.defects c) :=
    tells_withDefects
  refine ⟨?_, ?_⟩
  · intro u c' h
    unfold Yields at h
    rw [run_endOfCheck] at h
    split at h
    · cases h
    · next hd =>
      cases h
      have hnil : findings.defects = [] := by
        simpa [Findings.hasDefects] using hd
      rw [hnil] at htells ⊢
      exact ⟨[], List.forall_mem_nil _, htells⟩
  · intro e c' h
    unfold Ends at h
    rw [run_endOfCheck] at h
    split at h
    · next hd =>
      cases h
      have hne : findings.defects ≠ [] := by
        simpa [Findings.hasDefects] using hd
      exact ⟨[], _, List.forall_mem_nil _, htells, .inl ⟨rfl, by simpa using hne⟩⟩
    · cases h

theorem not_interrupted_endOfCheck {findings : Findings} {i : Interruption} :
    ¬ Interrupted (endOfCheck findings) c i := by
  rintro ⟨c', h⟩
  unfold Ends at h
  rw [run_endOfCheck] at h
  split at h <;> cases h

/-- The start of a check: the cautions are printed. -/
def startOfCheck (findings : Findings) : Session Unit :=
  findings.cautions.forM fun caution => print ("Warning: " ++ caution.message)

theorem run_startOfCheck (findings : Findings) (c : Console) :
    (startOfCheck findings).run.run c = (.ok (), findings.cautions.foldl
      (fun c caution => { c with out := c.out ++ ("Warning: " ++ caution.message) ++ "\n" }) c) :=
  run_forM _ _ fun _ _ => rfl

theorem reporting_startOfCheck {findings : Findings} :
    Reporting isNote (startOfCheck findings) := by
  refine reporting_of_yields ?_ ?_
  · intro c e c' h
    cases h.symm.trans (run_startOfCheck findings c)
  · intro c u c' h
    cases h.symm.trans (run_startOfCheck findings c)
    rw [foldl_out]

theorem not_interrupted_startOfCheck {findings : Findings} {i : Interruption} :
    ¬ Interrupted (startOfCheck findings) c i := by
  rintro ⟨c', h⟩
  cases h.symm.trans (run_startOfCheck findings c)

theorem check_eq : check document heading = (load document heading >>= fun api =>
    startOfCheck api.check >>= fun _ => endOfCheck api.check) := rfl

theorem reporting_check : Reporting (IsLoadedNote document) (check document heading) := by
  rw [check_eq]
  exact reporting_load.bind fun api => reporting_startOfCheck.bind fun _ =>
    reporting_endOfCheck api.check

end ApiScribe.CommandLine.Session
