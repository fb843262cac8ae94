import ApiScribe.Proofs.CommandLine.Ending
import ApiScribe.Proofs.Consistency
import ApiScribe.Proofs.StoredFile

/-!
# The verdict of a check

A check of a model that loads prints a line for each warning, reports each error, and ends with code
1 if there are errors; without errors its last line says that no issues were found, also below
warnings (`run_check`).  So the code tells whether names tell the parts of the model apart, and the
last line alone is printed for a model that has neither errors nor warnings (`check_verdict`).
-/

namespace ApiScribe.CommandLine

open Session

/-- The lines that a check prints: the warnings and, without errors, the verdict below them. -/
def verdictLines (findings : Findings) : List String :=
  findings.cautions.map (fun caution => "Warning: " ++ caution.message) ++
    if findings.hasDefects then [] else ["No issues found."]

variable {arguments : List String} {files : FileTree} {document heading : String} {api : Api}

/-- The console of a check: the note about the model and the errors are for the user's eyes. -/
def checked (files : FileTree) (document : String) (api : Api) : Console where
  files := files
  out := ofLines (verdictLines api.check)
  err := ofLines (loadedNote (Path.ofText document) api ::
    api.check.defects.map fun defect => "Error: " ++ defect.message)

/-- A check of a model that loads, step by step: the note, the warnings, the errors, the verdict. -/
theorem run_check_session (hapi : Api.load files heading (Path.ofText document) = .ok api) :
    (check document heading).run.run { files := files } =
      (if api.check.hasDefects then .error (.exit 1) else .ok (), checked files document api) := by
  have hload : (load document heading).run.run { files := files } =
      (.ok api, { files := files, err := "" ++ loadedNote (Path.ofText document) api ++ "\n" }) :=
    yields_load.2 ⟨hapi, rfl⟩
  rw [check_eq, Outcome.run_bind_of_ok hload, Outcome.run_bind_of_ok (run_startOfCheck _ _),
    foldl_out, run_endOfCheck, withDefects_eq]
  cases hd : api.check.hasDefects <;>
    simp [hd, checked, verdictLines, ofLines, String.join_append, String.append_assoc]

/-- How a check of a model that loads ends, and all that it prints. -/
theorem run_check (hparse : Command.parse arguments = .ok (.check document heading))
    (hapi : Api.load files heading (Path.ofText document) = .ok api) :
    run arguments files =
      (.exit (if api.check.hasDefects then 1 else 0), checked files document api) := by
  have hsession := run_check_session hapi
  cases hd : api.check.hasDefects with
  | true =>
    rw [hd] at hsession
    exact run_of_ends hparse hsession
  | false =>
    rw [hd] at hsession
    exact run_of_yields hparse hsession

/-! ### The last line -/

theorem ofLines_eq_empty {lines : List String} : ofLines lines = "" ↔ lines = [] := by
  cases lines with
  | nil => simp [ofLines]
  | cons line lines => simp [ofLines, String.append_eq_empty_iff]

/-- No warning reads like the verdict. -/
theorem ofLines_warnings_ne {cautions : List Caution} :
    ofLines (cautions.map fun caution => "Warning: " ++ caution.message) ≠
      ofLines ["No issues found."] := by
  cases cautions with
  | nil => decide
  | cons caution cautions =>
    intro h
    have hfirst := congrArg (fun text => text.toList.head?) h
    simp [ofLines] at hfirst

/-- The verdict alone is printed exactly if nothing was found. -/
theorem ofLines_verdictLines_eq {findings : Findings} :
    ofLines (verdictLines findings) = ofLines ["No issues found."] ↔
      findings.defects = [] ∧ findings.cautions = [] := by
  unfold verdictLines
  cases hd : findings.hasDefects with
  | true =>
    have hne : findings.defects ≠ [] := by
      simpa [Findings.hasDefects] using hd
    simp [ofLines_warnings_ne, hne]
  | false =>
    have hnil : findings.defects = [] := by
      simpa [Findings.hasDefects] using hd
    rw [ofLines_append]
    simp [hnil, ofLines_eq_empty]

/-- What a check says about a model that loads.  It ends with code 0 exactly if names tell the parts
of the model apart, and with code 1 otherwise.  It prints a line for each warning and, if there are
no errors, the line that no issues were found; that line is all it prints exactly if, in addition,
every reference leads to a DTO of the model and every DTO has fields. -/
theorem check_verdict (hparse : Command.parse arguments = .ok (.check document heading))
    (hapi : Api.load files heading (Path.ofText document) = .ok api) :
    ((run arguments files).1 = .exit 0 ↔ api.Consistent) ∧
    ((run arguments files).1 = .exit 1 ↔ ¬ api.Consistent) ∧
    (run arguments files).2 = {
      files := files
      out := ofLines (api.check.cautions.map (fun caution => "Warning: " ++ caution.message) ++
        if api.Consistent then ["No issues found."] else [])
      err := ofLines (loadedNote (Path.ofText document) api ::
        api.check.defects.map fun defect => "Error: " ++ defect.message) } ∧
    ((run arguments files).2.out = ofLines ["No issues found."] ↔
      api.Consistent ∧ api.Complete) ∧
    (api.check = ⟨[], []⟩ ↔ api.Consistent ∧ api.Complete) := by
  have hconsistent : api.check.defects = [] ↔ api.Consistent := Api.defects_eq_nil
  have hcomplete : api.check.cautions = [] ↔ api.Complete := Api.cautions_eq_nil
  have hcode : api.check.hasDefects = decide (¬ api.Consistent) := by
    rw [Bool.eq_iff_iff, decide_eq_true_iff]
    exact Api.hasDefects_check
  rw [run_check hparse hapi]
  refine ⟨?_, ?_, ?_, ?_, ?_⟩
  · by_cases h : api.Consistent <;> simp [hcode, h]
  · by_cases h : api.Consistent <;> simp [hcode, h]
  · by_cases h : api.Consistent <;> simp [checked, verdictLines, hcode, h]
  · rw [← hconsistent, ← hcomplete]
    exact ofLines_verdictLines_eq
  · rw [← hconsistent, ← hcomplete, and_comm]
    exact Findings.mk.injEq .. ▸ Iff.rfl

/-- A DTO with a field of a type that has no table. -/
def unknownTypeTable : Table := .dto "A" [⟨"a", "B", "-"⟩]

/-- A warning does not keep the check from saying that there are no issues. -/
theorem check_verdict_below_warning :
    Command.parse ["check", "a.html"] = .ok (.check "a.html" "h4") ∧
    Api.load (.directory [("a.html", .file (Text.encodeUtf8 unknownTypeTable.written.toList))])
      "h4" (Path.ofText "a.html") = .ok ⟨[⟨"A", [⟨"a", .reference "B"⟩]⟩], []⟩ ∧
    (run ["check", "a.html"] (.directory
        [("a.html", .file (Text.encodeUtf8 unknownTypeTable.written.toList))])).2.out =
      ofLines ["Warning: Field 'A.a' references unknown type 'B'", "No issues found."] := by
  have hparse : Command.parse ["check", "a.html"] = .ok (.check "a.html" "h4") := rfl
  have hmodel : Api.ofTables [unknownTypeTable] = ⟨[⟨"A", [⟨"a", .reference "B"⟩]⟩], []⟩ := by
    decide +kernel
  have hapi : Api.load
      (.directory [("a.html", .file (Text.encodeUtf8 unknownTypeTable.written.toList))])
      "h4" (Path.ofText "a.html") = .ok ⟨[⟨"A", [⟨"a", .reference "B"⟩]⟩], []⟩ := by
    rw [← hmodel]
    exact Document.load_written (by decide) (Document.cr_notMem_written (by decide) (by decide))
      (by decide +kernel) rfl rfl
  refine ⟨hparse, hapi, ?_⟩
  rw [(check_verdict hparse hapi).2.2.1]
  decide +kernel

end ApiScribe.CommandLine
