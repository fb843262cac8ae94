import ApiScribe.Proofs.CommandLine.Coverage
import ApiScribe.Proofs.CommandLine.Interruptions
import ApiScribe.Proofs.CommandLine.Reports

/-!
# How a run ends

With arguments that are not refused a run ends with code 0 or 1 or is interrupted, and it ends with
code 1 exactly if it reports an error (`run_ending`).  A run that asks for nothing beyond the tree
is interrupted exactly where the stage that fails first has no words for its failure; `Unreported`
lists what that is for each command.
-/

namespace ApiScribe.CommandLine

open Session

/-! ### Lines of reports -/

/-- A line that reports an error. -/
def IsReport (line : List Char) : Prop := Text.startsWith "Error: ".toList line

/-- Among lines of which no note is a report, there is a report exactly if an error was reported. -/
theorem exists_isReport_iff {notes errors : List String}
    (hnotes : ∀ note ∈ notes, '\n' ∉ note.toList ∧ ¬ IsReport note.toList) :
    (∃ line ∈ Text.splitOn '\n' (ofLines (notes ++ errors.map ("Error: " ++ ·))).toList,
      IsReport line) ↔ errors ≠ [] := by
  -- each note is a line of its own; behind all of them stands the first report, if there is one
  induction notes with
  | nil =>
    cases errors with
    | nil => simp [ofLines, Text.splitOn, IsReport, Text.startsWith, Text.dropLead?]
    | cons error errors =>
      have htext : (ofLines ([] ++ (error :: errors).map ("Error: " ++ ·))).toList =
          "Error: ".toList ++ (error.toList ++ '\n' ::
            (ofLines (errors.map ("Error: " ++ ·))).toList) := by
        simp [ofLines]
      rw [htext]
      obtain ⟨piece, more, hs⟩ := Text.exists_splitOn_append (error.toList ++ '\n' ::
        (ofLines (errors.map ("Error: " ++ ·))).toList) (by decide : '\n' ∉ "Error: ".toList)
      rw [hs]
      exact ⟨fun _ => List.cons_ne_nil _ _, fun _ =>
        ⟨_, List.mem_cons_self, Text.startsWith_append _ _⟩⟩
  | cons note notes ih =>
    obtain ⟨⟨hbreak, hreport⟩, hnotes⟩ := List.forall_mem_cons.1 hnotes
    have htext : (ofLines (note :: notes ++ errors.map ("Error: " ++ ·))).toList =
        note.toList ++ '\n' :: (ofLines (notes ++ errors.map ("Error: " ++ ·))).toList := by
      simp [ofLines]
    rw [htext, Text.splitOn_append_cons hbreak, ← ih hnotes]
    simp [hreport]

theorem not_isReport_loadedNote (p : Path) (api : Api) : ¬ IsReport (loadedNote p api).toList := by
  have htext : ∃ rest, (loadedNote p api).toList = "Loaded ".toList ++ rest := by
    unfold loadedNote
    simp only [String.toList_append, List.append_assoc]
    exact ⟨_, rfl⟩
  obtain ⟨rest, hr⟩ := htext
  rw [hr]
  simp [IsReport, Text.startsWith, Text.dropLead?]

/-- The note about a model has no break if the name of the document has none. -/
theorem break_not_mem_loadedNote {document : String} (h : '\n' ∉ document.toList) (api : Api) :
    '\n' ∉ (loadedNote (Path.ofText document) api).toList := by
  have hnumber (n : Nat) : '\n' ∉ Nat.toDigits 10 n := by
    intro hm
    exact absurd (Nat.isDigit_of_mem_toDigits (by decide) (by decide) hm) (by decide)
  have hpath : '\n' ∉ (Path.ofText document).text.toList := by
    rwa [Path.mem_text (by decide) (by decide), Path.mem_names_ofText (by decide) (by decide)]
  unfold loadedNote
  simp [hnumber, hpath]

/-! ### What interrupts a command -/

/-- A stage of generating code has no words for its failure, and those before it do their work. -/
inductive Ungenerated (t : FileTree) (document heading : String)
    (configuration templates directory : Path) : Interruption → Prop
  | configuration {i : Interruption} (h : Unconfigurable t configuration i) :
    Ungenerated t document heading configuration templates directory i
  | model {i : Interruption} {c : Configuration}
      (hc : Configuration.fromFile t configuration = .ok c)
      (h : Unloadable t (Path.ofText document) i) :
    Ungenerated t document heading configuration templates directory i
  | templates {i : Interruption} {c : Configuration} {api : Api}
      (hc : Configuration.fromFile t configuration = .ok c)
      (hapi : Api.load t heading (Path.ofText document) = .ok api)
      (h : Uncompilable t templates c i) :
    Ungenerated t document heading configuration templates directory i
  | output {c : Configuration} {api : Api} {set : TemplateSet} {files : TargetFiles}
      (hc : Configuration.fromFile t configuration = .ok c)
      (hapi : Api.load t heading (Path.ofText document) = .ok api)
      (hset : TemplateSet.ofConfiguration t templates c = .ok set)
      (hfiles : targetFiles c set api = .ok files) (h : files.Unwritable directory t) :
    Ungenerated t document heading configuration templates directory .nullCharacter

/-- A command fails, and there are no words for it. -/
inductive Unreported (t : FileTree) : Command → Interruption → Prop
  /-- A mark stands in place of a path. -/
  | generateMark {document heading configuration output : String} {templates : Option String}
      (h : configuration = "--" ∨ templates = some "--" ∨ output = "--") :
    Unreported t (.generate document heading configuration templates output) .missingPath
  | generate {i : Interruption} {document heading configuration output : String}
      {templates : Option String}
      (hmark : ¬ (configuration = "--" ∨ templates = some "--" ∨ output = "--"))
      (h : Ungenerated t document heading (Path.ofText configuration)
        (templatesPath templates (Path.ofText configuration)) (Path.ofText output) i) :
    Unreported t (.generate document heading configuration templates output) i
  | scrape {i : Interruption} {document heading : String} {output : Option String}
      (h : Unloadable t (Path.ofText document) i) :
    Unreported t (.scrape document heading output) i
  /-- A model to be printed has a type of too many wrappers. -/
  | scrapePrinted {document heading : String} {api : Api}
      (hapi : Api.load t heading (Path.ofText document) = .ok api) (h : api.TooDeep) :
    Unreported t (.scrape document heading none) .typeTooDeep
  | scrapeMark {document heading : String} {api : Api}
      (hapi : Api.load t heading (Path.ofText document) = .ok api) :
    Unreported t (.scrape document heading (some "--")) .missingPath
  | scrapeStored {i : Interruption} {document heading output : String} {api : Api}
      (hapi : Api.load t heading (Path.ofText document) = .ok api) (hmark : output ≠ "--")
      (h : Unstorable api (Path.ofText output) t i) :
    Unreported t (.scrape document heading (some output)) i
  | check {i : Interruption} {document heading : String}
      (h : Unloadable t (Path.ofText document) i) : Unreported t (.check document heading) i

/-- The document that a command works on. -/
def Command.document : Command → String
  | .generate document _ _ _ _ => document
  | .scrape document _ _ => document
  | .check document _ => document

variable {c c' : Console} {i : Interruption} {document heading : String}

theorem load_eq : load document heading =
    (reading LoadError.message (Api.load · heading (Path.ofText document)) >>= fun api =>
      note (loadedNote (Path.ofText document) api) >>= fun _ => pure api) := rfl

theorem yields_load {api : Api} : Yields (load document heading) c api c' ↔
    Api.load c.files heading (Path.ofText document) = .ok api ∧
      c' = { c with err := c.err ++ loadedNote (Path.ofText document) api ++ "\n" } := by
  rw [load_eq]
  simp only [yields_bind, yields_reading, yields_note, yields_pure]
  constructor
  · rintro ⟨api', c₁, ⟨hapi, rfl⟩, u, c₂, rfl, rfl, rfl⟩
    exact ⟨hapi, rfl⟩
  · rintro ⟨hapi, rfl⟩
    exact ⟨api, c, ⟨hapi, rfl⟩, (), _, rfl, rfl, rfl⟩

theorem interrupted_load :
    Interrupted (load document heading) c i ↔ Unloadable c.files (Path.ofText document) i := by
  rw [load_eq]
  simp only [interrupted_bind, interrupted_reading, not_interrupted_note, not_interrupted_pure,
    and_false, exists_false, or_false]
  exact Api.load_eq_interrupted

variable {configuration output : String} {templates : Option String}

theorem interrupted_generateAt {configuration templates directory : Path} :
    Interrupted (generateAt document heading configuration templates directory) c i ↔
      Ungenerated c.files document heading configuration templates directory i := by
  unfold generateAt
  simp only [interrupted_bind, interrupted_reading, yields_reading, interrupted_load, yields_load,
    interrupted_ofStage, yields_ofStage, interrupted_writing, yields_writing,
    not_interrupted_print, and_false, exists_false, or_false,
    Configuration.fromFile_eq_interrupted, TemplateSet.ofConfiguration_eq_interrupted,
    TargetFiles.writeTree_eq_interrupted]
  constructor
  · rintro (h | ⟨configured, _, ⟨hc, rfl⟩, h | ⟨api, _, ⟨hapi, rfl⟩, h | ⟨set, _, ⟨hset, rfl⟩,
      h | ⟨files, _, ⟨hfiles, rfl⟩, h, rfl⟩⟩⟩⟩)
    · exact .configuration h
    · exact .model hc h
    · exact .templates hc hapi h
    · -- rendering has words for every failure
      exact absurd h mapError_rejected_ne_interrupted
    · exact .output hc hapi hset hfiles h
  · intro h
    cases h with
    | configuration h => exact .inl h
    | model hc h => exact .inr ⟨_, _, ⟨hc, rfl⟩, .inl h⟩
    | templates hc hapi h =>
      exact .inr ⟨_, _, ⟨hc, rfl⟩, .inr ⟨_, _, ⟨hapi, rfl⟩, .inl h⟩⟩
    | output hc hapi hset hfiles h =>
      exact .inr ⟨_, _, ⟨hc, rfl⟩, .inr ⟨_, _, ⟨hapi, rfl⟩, .inr ⟨_, _, ⟨hset, rfl⟩,
        .inr ⟨_, _, ⟨hfiles, rfl⟩, h, rfl⟩⟩⟩⟩

theorem yields_templatesOf {configuration p : Path} :
    Yields (templatesOf templates configuration) c p c' ↔
      templates ≠ some "--" ∧ p = templatesPath templates configuration ∧ c' = c := by
  cases templates with
  | none => simp [templatesOf, templatesPath, yields_pure]
  | some directory => simp [templatesOf, templatesPath, yields_pathOf]

theorem interrupted_templatesOf {configuration : Path} :
    Interrupted (templatesOf templates configuration) c i ↔
      templates = some "--" ∧ i = .missingPath := by
  cases templates with
  | none => simp [templatesOf, not_interrupted_pure]
  | some directory => simp [templatesOf, interrupted_pathOf]

theorem interrupted_generate :
    Interrupted (generate document heading configuration templates output) c i ↔
      Unreported c.files (.generate document heading configuration templates output) i := by
  rw [generate_eq]
  simp only [interrupted_bind, interrupted_pathOf, yields_pathOf, interrupted_templatesOf,
    yields_templatesOf, interrupted_generateAt]
  constructor
  · rintro (⟨h, rfl⟩ | ⟨_, _, ⟨hconfiguration, rfl, rfl⟩, ⟨h, rfl⟩ | ⟨_, _, ⟨htemplates, rfl, rfl⟩,
      ⟨h, rfl⟩ | ⟨_, _, ⟨houtput, rfl, rfl⟩, h⟩⟩⟩)
    · exact .generateMark (.inl h)
    · exact .generateMark (.inr (.inl h))
    · exact .generateMark (.inr (.inr h))
    · exact .generate (by simp [hconfiguration, htemplates, houtput]) h
  · intro h
    cases h with
    | generateMark h =>
      -- whichever value is a mark, the first one interrupts
      by_cases hconfiguration : configuration = "--"
      · exact .inl ⟨hconfiguration, rfl⟩
      · refine .inr ⟨_, _, ⟨hconfiguration, rfl, rfl⟩, ?_⟩
        by_cases htemplates : templates = some "--"
        · exact .inl ⟨htemplates, rfl⟩
        · refine .inr ⟨_, _, ⟨htemplates, rfl, rfl⟩, .inl ⟨?_, rfl⟩⟩
          simpa [hconfiguration, htemplates] using h
    | generate hmark h =>
      simp only [not_or] at hmark
      obtain ⟨hconfiguration, htemplates, houtput⟩ := hmark
      exact .inr ⟨_, _, ⟨hconfiguration, rfl, rfl⟩, .inr ⟨_, _, ⟨htemplates, rfl, rfl⟩,
        .inr ⟨_, _, ⟨houtput, rfl, rfl⟩, h⟩⟩⟩

theorem interrupted_scrape {output : Option String} :
    Interrupted (scrape document heading output) c i ↔
      Unreported c.files (.scrape document heading output) i := by
  unfold scrape
  rw [interrupted_bind, interrupted_load]
  simp only [yields_load]
  cases output with
  | none =>
    constructor
    · rintro (h | ⟨api, _, ⟨hapi, rfl⟩, h⟩)
      · exact .scrape h
      · dsimp only at h
        split at h
        · exact absurd h not_interrupted_print
        · next hw =>
          obtain ⟨hdeep, rfl⟩ := Artifact.write_eq_interrupted.1 hw
          obtain rfl := interrupted_throw.1 h
          exact .scrapePrinted hapi hdeep
    · intro h
      cases h with
      | scrape h => exact .inl h
      | scrapePrinted hapi h =>
        refine .inr ⟨_, _, ⟨hapi, rfl⟩, ?_⟩
        rw [Artifact.write_eq_interrupted.2 ⟨h, rfl⟩]
        exact interrupted_throw.2 rfl
  | some output =>
    simp only [interrupted_bind, interrupted_pathOf, yields_pathOf, interrupted_writing,
      not_interrupted_print, and_false, exists_false, or_false, Artifact.toFile_eq_interrupted]
    constructor
    · rintro (h | ⟨api, _, ⟨hapi, rfl⟩, ⟨rfl, rfl⟩ | ⟨_, _, ⟨hmark, rfl, rfl⟩, h⟩⟩)
      · exact .scrape h
      · exact .scrapeMark hapi
      · exact .scrapeStored hapi hmark h
    · intro h
      cases h with
      | scrape h => exact .inl h
      | scrapeMark hapi => exact .inr ⟨_, _, ⟨hapi, rfl⟩, .inl ⟨rfl, rfl⟩⟩
      | scrapeStored hapi hmark h =>
        exact .inr ⟨_, _, ⟨hapi, rfl⟩, .inr ⟨_, _, ⟨hmark, rfl, rfl⟩, h⟩⟩

theorem interrupted_check :
    Interrupted (check document heading) c i ↔ Unreported c.files (.check document heading) i := by
  rw [check_eq]
  simp only [interrupted_bind, interrupted_load, not_interrupted_startOfCheck,
    not_interrupted_endOfCheck, and_false, exists_false, or_false]
  constructor
  · exact .check
  · intro h
    cases h with
    | check h => exact h

theorem interrupted_command {asked : Command} :
    Interrupted (command asked) c i ↔ Unreported c.files asked i := by
  cases asked with
  | generate => exact interrupted_generate
  | scrape => exact interrupted_scrape
  | check => exact interrupted_check

/-! ### A run -/

theorem reporting_command {asked : Command} :
    Reporting (IsLoadedNote asked.document) (command asked) := by
  cases asked with
  | generate => exact reporting_generate
  | scrape => exact reporting_scrape
  | check => exact reporting_check

variable {arguments : List String} {files : FileTree} {asked : Command}

theorem start_eq (h : Command.parse arguments = .ok asked) :
    Session.start arguments = command asked := by
  unfold Session.start
  rw [h]

/-- A run ends with code 0 if its command does its work. -/
theorem run_of_yields (h : Command.parse arguments = .ok asked)
    (hc : Yields (command asked) { files := files } () c) : run arguments files = (.exit 0, c) := by
  unfold Yields at hc
  unfold run
  rw [start_eq h, hc]

theorem run_of_ends {e : Ending} (h : Command.parse arguments = .ok asked)
    (hc : Ends (command asked) { files := files } e c) : run arguments files = (e, c) := by
  unfold Ends at hc
  unfold run
  rw [start_eq h, hc]

/-- A run does what it is asked to do and ends with code 0, unless that ends it before. -/
theorem run_command (h : Command.parse arguments = .ok asked) :
    (∃ c, Yields (command asked) { files := files } () c ∧ run arguments files = (.exit 0, c)) ∨
      ∃ e c, Ends (command asked) { files := files } e c ∧ run arguments files = (e, c) := by
  rcases hrun : (command asked).run.run { files := files } with ⟨e | ⟨⟩, c⟩
  · exact .inr ⟨e, c, hrun, run_of_ends h hrun⟩
  · exact .inl ⟨c, hrun, run_of_yields h hrun⟩

theorem run_help {text : String} (files : FileTree)
    (h : Command.parse arguments = .error (.help text)) :
    run arguments files = (.exit 0, { files := files, out := "" ++ text }) := by
  have hstart : Session.start arguments = stop (.help text) := by
    unfold Session.start
    rw [h]
  unfold run
  rw [hstart]
  rfl

theorem run_eq_interrupted (h : Command.parse arguments = .ok asked) :
    (run arguments files).1 = .interrupted i ↔ Unreported files asked i := by
  have hasked : Interrupted (command asked) { files := files } i ↔ Unreported files asked i :=
    interrupted_command
  rw [← hasked]
  rcases run_command h with ⟨c, hc, hr⟩ | ⟨e, c, hc, hr⟩
  · rw [hr]
    constructor
    · intro hi
      cases hi
    · rintro ⟨c', hc'⟩
      cases hc.symm.trans hc'
  · rw [hr]
    constructor
    · rintro rfl
      exact ⟨c, hc⟩
    · rintro ⟨c', hc'⟩
      cases hc.symm.trans hc'
      rfl

/-- What a run prints for the user's eyes: notes about a model that was loaded, and then reports of
errors, which stand for code 1. -/
structure Told (arguments : List String) (files : FileTree) (notes errors : List String) :
    Prop where
  note : ∀ line ∈ notes, ∃ asked, Command.parse arguments = .ok asked ∧
    IsLoadedNote asked.document line
  err : (run arguments files).2.err = ofLines (notes ++ errors.map ("Error: " ++ ·))
  ending : ((run arguments files).1 = .exit 0 ∧ errors = []) ∨
    ((run arguments files).1 = .exit 1 ∧ errors ≠ []) ∨
    (∃ i, (run arguments files).1 = .interrupted i) ∧ errors = []

theorem exists_told_of_command (h : Command.parse arguments = .ok asked) :
    ∃ notes errors, Told arguments files notes errors := by
  rcases run_command h with ⟨c, hc, hr⟩ | ⟨e, c, hc, hr⟩
  · obtain ⟨notes, hnotes, htells⟩ := (reporting_command _).1 () c hc
    refine ⟨notes, [], fun note hn => ⟨asked, h, hnotes note hn⟩, ?_, ?_⟩
    · rw [hr]
      exact htells.trans String.empty_append
    · rw [hr]
      exact .inl ⟨rfl, rfl⟩
  · obtain ⟨notes, errors, hnotes, htells, hending⟩ := (reporting_command _).2 e c hc
    refine ⟨notes, errors, fun note hn => ⟨asked, h, hnotes note hn⟩, ?_, ?_⟩
    · rw [hr]
      exact htells.trans String.empty_append
    · rw [hr]
      rcases hending with ⟨rfl, hne⟩ | ⟨i, rfl, hnil⟩
      · exact .inr (.inl ⟨rfl, hne⟩)
      · exact .inr (.inr ⟨⟨i, rfl⟩, hnil⟩)

theorem exists_told (h : ∀ text, Command.parse arguments ≠ .error (.misuse text)) :
    ∃ notes errors, Told arguments files notes errors := by
  cases hparse : Command.parse arguments with
  | ok asked => exact exists_told_of_command hparse
  | error s =>
    cases s with
    | misuse text => exact absurd hparse (h text)
    | help text =>
      have hr := run_help files hparse
      refine ⟨[], [], List.forall_mem_nil _, ?_, ?_⟩
      · rw [hr]
        rfl
      · rw [hr]
        exact .inl ⟨rfl, rfl⟩

/-- A name of a document without a break comes out in one line, so that only errors give lines that
report one. -/
theorem Told.exit_one_iff {notes errors : List String} (h : Told arguments files notes errors)
    (hbreak : ∀ asked, Command.parse arguments = .ok asked → '\n' ∉ asked.document.toList) :
    (run arguments files).1 = .exit 1 ↔
      ∃ line ∈ Text.splitOn '\n' (run arguments files).2.err.toList, IsReport line := by
  have hplain : ∀ line ∈ notes, '\n' ∉ line.toList ∧ ¬ IsReport line.toList := by
    intro line hl
    obtain ⟨asked, hasked, api, rfl⟩ := h.note line hl
    exact ⟨break_not_mem_loadedNote (hbreak asked hasked) api, not_isReport_loadedNote _ api⟩
  rw [h.err, exists_isReport_iff hplain]
  rcases h.ending with ⟨hcode, hnil⟩ | ⟨hcode, hne⟩ | ⟨⟨i, hi⟩, hnil⟩
  · simp [hcode, hnil]
  · simp [hcode, hne]
  · simp [hi, hnil]

end ApiScribe.CommandLine
