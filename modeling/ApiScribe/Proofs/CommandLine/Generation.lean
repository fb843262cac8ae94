import ApiScribe.Proofs.CommandLine.Ending
import ApiScribe.Proofs.Output.Frame
import ApiScribe.Proofs.StoredFile

/-!
# Generating all or nothing

The generation of code has four stages before its files are written: the configuration is read, the
model is loaded, the templates are read and compiled, and they are rendered.  None of them touches
the files (`quiet_stagesOf`), so a run that one of them stops ends with code 1 and leaves everything
as it was.  The writing comes last, and is confined to the output directory.

Main statement: `generate_all_or_nothing`.
-/

namespace ApiScribe.CommandLine

namespace Session

variable {α β ε : Type} {c c' : Console} {e : Ending}

/-! ### Sessions that leave the files alone -/

/-- However the session ends, the files are as before. -/
def Quiet (m : Session α) : Prop := ∀ c, (m.run.run c).2.files = c.files

theorem Quiet.bind {m : Session α} {f : α → Session β} (hm : Quiet m) (hf : ∀ a, Quiet (f a)) :
    Quiet (m >>= f) := by
  intro c
  have hfirst := hm c
  rcases hr : m.run.run c with ⟨e | a, c₁⟩
  · rw [hr] at hfirst
    rw [Outcome.run_bind_of_error hr, hfirst]
  · rw [hr] at hfirst
    rw [Outcome.run_bind_of_ok hr, hf a c₁, hfirst]

theorem quiet_pure {a : α} : Quiet (pure a) := fun _ => rfl

theorem quiet_note {line : String} : Quiet (note line) := fun _ => rfl

theorem quiet_ofStage {message : ε → String} {x : Except (Failure ε) α} :
    Quiet (ofStage message x) := by
  intro c
  rcases x with (r | i) | a <;> rfl

theorem quiet_reading {message : ε → String} {stage : FileTree → Except (Failure ε) α} :
    Quiet (reading message stage) := fun c => quiet_ofStage c

theorem quiet_print {line : String} : Quiet (print line) := fun _ => rfl

/-- What comes after a stage that changes files leaves them as the stage did. -/
theorem files_writing {message : ε → String}
    {stage : FileTree → Except (Failure ε) α × FileTree} {rest : α → Session β}
    (hrest : ∀ a, Quiet (rest a)) (c : Console) :
    ((writing message stage >>= rest).run.run c).2.files = (stage c.files).2 :=
  (quiet_ofStage.bind hrest) { c with files := (stage c.files).2 }

/-! ### The stages before the writing -/

/-- The stages up to the files that the templates make, of which nothing is written yet. -/
def stagesOf (document heading : String) (configuration templates : Path) :
    Session TargetFiles := do
  let c ← reading ConfigurationError.message (Configuration.fromFile · configuration)
  let api ← load document heading
  let set ← reading ResolveError.message (TemplateSet.ofConfiguration · templates c)
  ofStage ResolveError.message (targetFiles c set api)

variable {document heading : String} {configuration templates directory : Path}

theorem quiet_load : Quiet (load document heading) :=
  quiet_reading.bind fun _ => quiet_note.bind fun _ => quiet_pure

theorem quiet_stagesOf : Quiet (stagesOf document heading configuration templates) :=
  quiet_reading.bind fun _ => quiet_load.bind fun _ => quiet_reading.bind fun _ => quiet_ofStage

theorem generateAt_eq : generateAt document heading configuration templates directory =
    (stagesOf document heading configuration templates >>= fun files =>
      writing WriteError.message (files.writeTree directory) >>= fun _ =>
      print
        ("Generated " ++ toString files.size ++ " file(s) in '" ++ directory.text ++ "'.")) := by
  unfold generateAt stagesOf
  simp only [bind_assoc]

/-- The stages do their work: they load a model and make files of it. -/
def Generated (t : FileTree) (document heading : String) (configuration templates : Path)
    (api : Api) (files : TargetFiles) : Prop :=
  ∃ c set, Configuration.fromFile t configuration = .ok c ∧
    Api.load t heading (Path.ofText document) = .ok api ∧
    TemplateSet.ofConfiguration t templates c = .ok set ∧ targetFiles c set api = .ok files

/-- A stage rejects its input, and those before it do their work; the lines are what is printed for
the user's eyes. -/
inductive Stopped (t : FileTree) (document heading : String) (configuration templates : Path) :
    List String → Prop
  | configuration {e : ConfigurationError}
      (h : Configuration.fromFile t configuration = .error (.rejected e)) :
    Stopped t document heading configuration templates ["Error: " ++ e.message]
  | model {c : Configuration} {e : LoadError}
      (hc : Configuration.fromFile t configuration = .ok c)
      (h : Api.load t heading (Path.ofText document) = .error (.rejected e)) :
    Stopped t document heading configuration templates ["Error: " ++ e.message]
  | templates {c : Configuration} {api : Api} {e : ResolveError}
      (hc : Configuration.fromFile t configuration = .ok c)
      (hapi : Api.load t heading (Path.ofText document) = .ok api)
      (h : TemplateSet.ofConfiguration t templates c = .error (.rejected e)) :
    Stopped t document heading configuration templates
      [loadedNote (Path.ofText document) api, "Error: " ++ e.message]
  | files {c : Configuration} {api : Api} {set : TemplateSet} {e : ResolveError}
      (hc : Configuration.fromFile t configuration = .ok c)
      (hapi : Api.load t heading (Path.ofText document) = .ok api)
      (hset : TemplateSet.ofConfiguration t templates c = .ok set)
      (h : targetFiles c set api = .error (.rejected e)) :
    Stopped t document heading configuration templates
      [loadedNote (Path.ofText document) api, "Error: " ++ e.message]

theorem yields_stagesOf {files : TargetFiles} :
    Yields (stagesOf document heading configuration templates) c files c' ↔
      ∃ api, Generated c.files document heading configuration templates api files ∧
        c' = { c with err := c.err ++ loadedNote (Path.ofText document) api ++ "\n" } := by
  unfold stagesOf
  simp only [yields_bind, yields_reading, yields_load, yields_ofStage]
  constructor
  · rintro ⟨configured, _, ⟨hc, rfl⟩, api, _, ⟨hapi, rfl⟩, set, _, ⟨hset, rfl⟩, hfiles, rfl⟩
    exact ⟨api, ⟨configured, set, hc, hapi, hset, hfiles⟩, rfl⟩
  · rintro ⟨api, ⟨configured, set, hc, hapi, hset, hfiles⟩, rfl⟩
    exact ⟨configured, _, ⟨hc, rfl⟩, api, _, ⟨hapi, rfl⟩, set, _, ⟨hset, rfl⟩, hfiles, rfl⟩

theorem exits_ofStage {message : ε → String} {x : Except (Failure ε) α} :
    Ends (ofStage message x) c (.exit 1) c' ↔
      ∃ r, x = .error (.rejected r) ∧ c' = reported (message r) c := by
  rw [ends_ofStage]
  simp

theorem exits_reading {message : ε → String} {stage : FileTree → Except (Failure ε) α} :
    Ends (reading message stage) c (.exit 1) c' ↔
      ∃ r, stage c.files = .error (.rejected r) ∧ c' = reported (message r) c :=
  exits_ofStage

theorem exits_load : Ends (load document heading) c (.exit 1) c' ↔
    ∃ r, Api.load c.files heading (Path.ofText document) = .error (.rejected r) ∧
      c' = reported r.message c := by
  rw [load_eq]
  simp only [ends_bind, exits_reading, not_ends_note, not_ends_pure, and_false, exists_false,
    or_false]

theorem reported_eq {message : String} :
    reported message c = { c with err := c.err ++ ofLines ["Error: " ++ message] } := by
  simp [reported, ofLines, String.append_assoc]

/-- The report of a stage after the model was loaded stands below the note about the model. -/
theorem reported_noted {note message : String} :
    reported message { c with err := c.err ++ note ++ "\n" } =
      { c with err := c.err ++ ofLines [note, "Error: " ++ message] } := by
  simp [reported, ofLines, String.append_assoc]

/-- The stages end the run with code 1 exactly if one of them rejects its input. -/
theorem exits_stagesOf :
    Ends (stagesOf document heading configuration templates) c (.exit 1) c' ↔
      ∃ lines, Stopped c.files document heading configuration templates lines ∧
        c' = { c with err := c.err ++ ofLines lines } := by
  unfold stagesOf
  simp only [ends_bind, exits_reading, yields_reading, exits_load, yields_load, exits_ofStage]
  constructor
  · rintro (⟨e, h, rfl⟩ | ⟨configured, _, ⟨hc, rfl⟩, ⟨e, h, rfl⟩ | ⟨api, _, ⟨hapi, rfl⟩,
      ⟨e, h, rfl⟩ | ⟨set, _, ⟨hset, rfl⟩, e, h, rfl⟩⟩⟩)
    · exact ⟨_, .configuration h, reported_eq⟩
    · exact ⟨_, .model hc h, reported_eq⟩
    · exact ⟨_, .templates hc hapi h, reported_noted⟩
    · exact ⟨_, .files hc hapi hset h, reported_noted⟩
  · rintro ⟨lines, hstopped, rfl⟩
    cases hstopped with
    | configuration h => exact .inl ⟨_, h, reported_eq.symm⟩
    | model hc h => exact .inr ⟨_, _, ⟨hc, rfl⟩, .inl ⟨_, h, reported_eq.symm⟩⟩
    | templates hc hapi h =>
      exact .inr ⟨_, _, ⟨hc, rfl⟩, .inr ⟨_, _, ⟨hapi, rfl⟩, .inl ⟨_, h, reported_noted.symm⟩⟩⟩
    | files hc hapi hset h =>
      exact .inr ⟨_, _, ⟨hc, rfl⟩, .inr ⟨_, _, ⟨hapi, rfl⟩, .inr ⟨_, _, ⟨hset, rfl⟩,
        _, h, reported_noted.symm⟩⟩⟩

/-! ### The whole command -/

theorem ends_generateAt_of_stopped {lines : List String}
    (h : Stopped c.files document heading configuration templates lines) :
    Ends (generateAt document heading configuration templates directory) c (.exit 1)
      { c with err := c.err ++ ofLines lines } := by
  rw [generateAt_eq, ends_bind]
  exact .inl (exits_stagesOf.2 ⟨lines, h, rfl⟩)

/-- A run that ends with code 1 was stopped by a stage, or the files could not be written. -/
theorem stopped_or_unwritten
    (h : Ends (generateAt document heading configuration templates directory) c (.exit 1) c') :
    (∃ lines, Stopped c.files document heading configuration templates lines) ∨
      ∃ api files e, Generated c.files document heading configuration templates api files ∧
        (files.writeTree directory c.files).1 = .error (.rejected e) := by
  rw [generateAt_eq, ends_bind] at h
  rcases h with h | ⟨files, c₁, hstages, h⟩
  · obtain ⟨lines, hstopped, -⟩ := exits_stagesOf.1 h
    exact .inl ⟨lines, hstopped⟩
  · obtain ⟨api, hgenerated, rfl⟩ := yields_stagesOf.1 hstages
    rcases ends_bind.1 h with h | ⟨_, _, _, h⟩
    · obtain ⟨e, he, -⟩ := exits_ofStage.1 h
      exact .inr ⟨api, files, e, hgenerated, he⟩
    · exact absurd h not_ends_print

/-- The files change only if all stages did their work, and then by the writing alone. -/
theorem files_generateAt (c : Console) :
    ((generateAt document heading configuration templates directory).run.run c).2.files = c.files ∨
      ∃ api files, Generated c.files document heading configuration templates api files ∧
        ((generateAt document heading configuration templates directory).run.run c).2.files =
          (files.writeTree directory c.files).2 := by
  have hquiet : Quiet (stagesOf document heading configuration templates) := quiet_stagesOf
  replace hquiet := hquiet c
  rw [generateAt_eq]
  rcases hr : (stagesOf document heading configuration templates).run.run c with ⟨e | files, c₁⟩
  · rw [hr] at hquiet
    rw [Outcome.run_bind_of_error hr]
    exact .inl hquiet
  · obtain ⟨api, hgenerated, rfl⟩ := yields_stagesOf.1 hr
    rw [Outcome.run_bind_of_ok hr]
    exact .inr ⟨api, files, hgenerated, files_writing (fun _ => quiet_print) _⟩

variable {output : String} {templates : Option String}

theorem pathOf_eq {value : String} (h : value ≠ "--") : pathOf value = pure (Path.ofText value) :=
  if_neg h

theorem templatesOf_eq (h : templates ≠ some "--") :
    templatesOf templates configuration = pure (templatesPath templates configuration) := by
  cases templates with
  | none => rfl
  | some directory => exact pathOf_eq fun hd => h (congrArg some hd)

/-- A value that stands for a path is a mark. -/
def Marked (configuration : String) (templates : Option String) (output : String) : Prop :=
  configuration = "--" ∨ templates = some "--" ∨ output = "--"

/-- With a mark in place of a path nothing is done. -/
theorem run_generate_of_marked {configuration : String}
    (h : Marked configuration templates output) (c : Console) :
    (generate document heading configuration templates output).run.run c =
      (.error (.interrupted .missingPath), c) := by
  have hmark : pathOf "--" = throw (.interrupted .missingPath) := rfl
  rw [generate_eq]
  by_cases hconfiguration : configuration = "--"
  · rw [hconfiguration, hmark]
    rfl
  rw [pathOf_eq hconfiguration, pure_bind]
  by_cases htemplates : templates = some "--"
  · rw [htemplates]
    rfl
  obtain rfl : output = "--" := by
    simpa [Marked, hconfiguration, htemplates] using h
  rw [templatesOf_eq htemplates, pure_bind, hmark]
  rfl

/-- Without a mark the paths are those that the values name. -/
theorem generate_of_not_marked {configuration : String}
    (h : ¬ Marked configuration templates output) :
    generate document heading configuration templates output =
      generateAt document heading (Path.ofText configuration)
        (templatesPath templates (Path.ofText configuration)) (Path.ofText output) := by
  simp only [Marked, not_or] at h
  obtain ⟨hconfiguration, htemplates, houtput⟩ := h
  rw [generate_eq, pathOf_eq hconfiguration, pure_bind, templatesOf_eq htemplates, pure_bind,
    pathOf_eq houtput, pure_bind]

end Session

open Session

/-! ### A run -/

variable {arguments : List String} {files : FileTree} {document heading configuration : String}
  {output : String} {templates : Option String}

/-- A run leaves the files as its command does. -/
theorem files_run {asked : Command} (h : Command.parse arguments = .ok asked) :
    (run arguments files).2.files = ((command asked).run.run { files := files }).2.files := by
  rcases run_command h with ⟨c, hc, hr⟩ | ⟨e, c, hc, hr⟩
  · rw [hr, hc]
  · rw [hr, hc]

theorem ends_of_run {asked : Command} {code : Nat} (hcode : code ≠ 0)
    (h : Command.parse arguments = .ok asked) (hr : (run arguments files).1 = .exit code) :
    ∃ c, Ends (command asked) { files := files } (.exit code) c := by
  rcases run_command h with ⟨c, -, hr'⟩ | ⟨e, c, hc, hr'⟩
  · rw [hr'] at hr
    exact absurd (Ending.exit.inj hr).symm hcode
  · rw [hr'] at hr
    exact ⟨c, hr ▸ hc⟩

/-- Generating code is all or nothing up to the writing of files.  A run that a stage before it
stops ends with code 1, prints nothing but what is for the user's eyes, and leaves the files
exactly as they were; so does every run that does not get to the writing, and code 1 has no other
reason than such a stage or the refusal of the writing.  However a run ends, whatever has changed is
at the output directory and below it, or is a directory on the way to it that was missing. -/
theorem generate_all_or_nothing (hparse : Command.parse arguments =
      .ok (.generate document heading configuration templates output)) :
    (∀ lines, ¬ Marked configuration templates output →
      Stopped files document heading (Path.ofText configuration)
        (templatesPath templates (Path.ofText configuration)) lines →
      run arguments files = (.exit 1, { files := files, err := ofLines lines })) ∧
    ((run arguments files).1 = .exit 1 →
      (∃ lines, Stopped files document heading (Path.ofText configuration)
        (templatesPath templates (Path.ofText configuration)) lines) ∨
      ∃ api made e, Generated files document heading (Path.ofText configuration)
          (templatesPath templates (Path.ofText configuration)) api made ∧
        (made.writeTree (Path.ofText output) files).1 = .error (.rejected e)) ∧
    ((¬ ∃ api made, Generated files document heading (Path.ofText configuration)
        (templatesPath templates (Path.ofText configuration)) api made) →
      (run arguments files).2.files = files) ∧
    TargetFiles.Framed files (Path.ofText output) (run arguments files).2.files := by
  by_cases hmark : Marked configuration templates output
  · -- nothing is done
    have hrun : run arguments files = (.interrupted .missingPath, { files := files }) :=
      run_of_ends hparse (run_generate_of_marked hmark _)
    rw [hrun]
    refine ⟨fun lines hno => absurd hmark hno, ?_, fun _ => rfl, TargetFiles.framed_self⟩
    intro hcode
    cases hcode
  · have hcommand : command (.generate document heading configuration templates output) =
        generateAt document heading (Path.ofText configuration)
          (templatesPath templates (Path.ofText configuration)) (Path.ofText output) :=
      generate_of_not_marked hmark
    have hfiles : (run arguments files).2.files = ((command (.generate document heading
        configuration templates output)).run.run { files := files }).2.files := files_run hparse
    rw [hcommand] at hfiles
    -- the files are as before, or as the writing leaves them
    have hchanged : (run arguments files).2.files = files ∨
        ∃ api made, Generated files document heading (Path.ofText configuration)
            (templatesPath templates (Path.ofText configuration)) api made ∧
          (run arguments files).2.files = (made.writeTree (Path.ofText output) files).2 := by
      rw [hfiles]
      exact files_generateAt { files := files }
    refine ⟨?_, ?_, ?_, ?_⟩
    · intro lines _ hstopped
      have hends : Ends (command (.generate document heading configuration templates output))
          { files := files } (.exit 1) { files := files, err := "" ++ ofLines lines } := by
        rw [hcommand]
        exact ends_generateAt_of_stopped hstopped
      rw [String.empty_append] at hends
      exact run_of_ends hparse hends
    · intro hcode
      obtain ⟨c, hc⟩ := ends_of_run (by decide) hparse hcode
      rw [hcommand] at hc
      exact stopped_or_unwritten hc
    · intro hnone
      rcases hchanged with h | ⟨api, made, hgenerated, -⟩
      · exact h
      · exact absurd ⟨api, made, hgenerated⟩ hnone
    · rcases hchanged with h | ⟨api, made, -, h⟩
      · rw [h]
        exact TargetFiles.framed_self
      · rw [h]
        exact TargetFiles.writeTree_framed

/-- A DTO without fields. -/
def loneTable : Table := .dto "A" []

/-- Two template files with one filename for all. -/
def collidingConfiguration : String :=
  "integer_type: I\nstring_type: S\nboolean_type: B\narray_type: L\noptional_type: O\n" ++
    "template_files:\n- template_path: t\n  target_path: x\n  resolve_strategy: FOR_ALL_DTOS\n" ++
    "- template_path: u\n  target_path: x\n  resolve_strategy: FOR_ALL_DTOS\n"

/-- What `collidingConfiguration` says. -/
def collidingSettings : Configuration :=
  ⟨"I", "S", "B", "L", "O", [], [⟨"t", "x", "FOR_ALL_DTOS"⟩, ⟨"u", "x", "FOR_ALL_DTOS"⟩]⟩

/-- A document, a configuration with its templates, and the output of an earlier run. -/
def collidingFiles : FileTree :=
  .directory [("a.html", .file (Text.encodeUtf8 loneTable.written.toList)),
    ("a.yaml", .file (Text.encodeUtf8 collidingConfiguration.toList)), ("t", .file []),
    ("u", .file []), ("generated", .directory [("old", .file [0x61])])]

/-- Two files of one name stop a run, and the output of the earlier run stays. -/
theorem generate_all_or_nothing_colliding :
    Command.parse ["generate", "a.html", "--config", "a.yaml"] =
      .ok (.generate "a.html" "h4" "a.yaml" none "generated") ∧
    run ["generate", "a.html", "--config", "a.yaml"] collidingFiles =
      (.exit 1, {
        files := collidingFiles
        err := ofLines [loadedNote (Path.ofText "a.html") ⟨[⟨"A", []⟩], []⟩,
          "Error: " ++ (ResolveError.duplicateFilenames ["x"]).message] }) := by
  have hparse : Command.parse ["generate", "a.html", "--config", "a.yaml"] =
      .ok (.generate "a.html" "h4" "a.yaml" none "generated") := rfl
  have hmark : ¬ Marked "a.yaml" none "generated" := by
    simp [Marked]
  have hmodel : Api.ofTables [loneTable] = ⟨[⟨"A", []⟩], []⟩ := by
    decide +kernel
  have hapi : Api.load collidingFiles "h4" (Path.ofText "a.html") = .ok ⟨[⟨"A", []⟩], []⟩ := by
    rw [← hmodel]
    exact Document.load_written (by decide) (Document.cr_notMem_written (by decide) (by decide))
      (by decide +kernel) rfl rfl
  -- evaluated by its characters, because the bytes of a string take long to decode
  have htext : collidingConfiguration.toList = _ :=
    toList_append_of_eq (toList_append_of_eq String.toList_ofList String.toList_ofList)
      String.toList_ofList
  have hread : Configuration.read "a.yaml" collidingConfiguration = .ok collidingSettings :=
    Configuration.read_of_toList htext (by decide +kernel)
  have hcr : '\r' ∉ collidingConfiguration.toList := by
    rw [htext]
    decide +kernel
  have hplace : collidingFiles.locate (Path.ofText "a.yaml") = .ok ["a.yaml"] := rfl
  have hconfiguration : Configuration.fromFile collidingFiles (Path.ofText "a.yaml") =
      .ok collidingSettings :=
    Configuration.fromFile_of_encoded hplace rfl hcr hread
  have hresolved :
      (TemplateSet.ofConfiguration collidingFiles ⟨0, []⟩ collidingSettings).toOption.map
        (fun set => (targetFiles collidingSettings set ⟨[⟨"A", []⟩], []⟩).map TargetFiles.toList) =
          some (.error (.rejected (.duplicateFilenames ["x"]))) := by
    decide +kernel
  obtain ⟨set, hset, hcollision⟩ := Option.map_eq_some_iff.1 hresolved
  have hstopped := Stopped.files hconfiguration hapi (Outcome.toOption_eq_some.1 hset)
    (Outcome.map_eq_error.1 hcollision)
  exact ⟨hparse, (generate_all_or_nothing hparse).1 _ hmark hstopped⟩

end ApiScribe.CommandLine
