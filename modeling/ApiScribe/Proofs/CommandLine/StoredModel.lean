import ApiScribe.Proofs.CommandLine.Ending
import ApiScribe.Proofs.CommandLine.Reading
import ApiScribe.Proofs.Output.Aside
import ApiScribe.Proofs.StoredFile

/-!
# A stored model in place of its document

A model that `scrape` stored stands for its document: `generate` makes the same files of it
(`run_stored`).  The two runs differ in where they load the model, and in one leaf of the tree, the
stored model itself; `Agree` says of two such sessions that they end and print alike, and is kept
when sessions are put together.
-/

namespace ApiScribe.CommandLine

open FileTree (Entry Laid)

namespace Session

variable {α β ε : Type} {place : Place} {leaf : Entry} {c c' : Console}

/-- Two consoles have the same output, and their files differ in a leaf. -/
structure Beside (place : Place) (leaf : Entry) (c c' : Console) : Prop where
  out : c'.out = c.out
  files : Laid c.files place leaf c'.files

/-- Two sessions, each on its console, end in the same way and leave such consoles. -/
def Agree (place : Place) (leaf : Entry) (m : Session α) (c : Console) (m' : Session α)
    (c' : Console) : Prop :=
  (m'.run.run c').1 = (m.run.run c).1 ∧ Beside place leaf (m.run.run c).2 (m'.run.run c').2

theorem Agree.bind {m m' : Session α} {f f' : α → Session β} (h : Agree place leaf m c m' c')
    (hf : ∀ a d d', Yields m c a d → Yields m' c' a d' → Beside place leaf d d' →
      Agree place leaf (f a) d (f' a) d') : Agree place leaf (m >>= f) c (m' >>= f') c' := by
  obtain ⟨houtcome, hbeside⟩ := h
  unfold Agree
  rcases hr : m.run.run c with ⟨outcome, d⟩
  rcases hr' : m'.run.run c' with ⟨outcome', d'⟩
  rw [hr, hr'] at houtcome hbeside
  obtain rfl : outcome' = outcome := houtcome
  cases outcome' with
  | error e =>
    rw [Outcome.run_bind_of_error hr, Outcome.run_bind_of_error hr']
    exact ⟨rfl, hbeside⟩
  | ok a =>
    rw [Outcome.run_bind_of_ok hr, Outcome.run_bind_of_ok hr']
    exact hf a d d' hr hr' hbeside

/-! ### Single steps -/

theorem agree_print (line : String) (h : Beside place leaf c c') :
    Agree place leaf (print line) c (print line) c' :=
  ⟨rfl, congrArg (· ++ line ++ "\n") h.out, h.files⟩

theorem agree_pathOf (value : String) (h : Beside place leaf c c') :
    Agree place leaf (pathOf value) c (pathOf value) c' := by
  unfold pathOf
  split <;> exact ⟨rfl, h⟩

theorem agree_templatesOf (templates : Option String) (configuration : Path)
    (h : Beside place leaf c c') :
    Agree place leaf (templatesOf templates configuration) c (templatesOf templates configuration)
      c' := by
  cases templates with
  | none => exact ⟨rfl, h⟩
  | some directory => exact agree_pathOf directory h

/-- Alike stages end alike. -/
theorem agree_ofStage {message : ε → String} {x x' : Except (Failure ε) α} (hx : Alike x x')
    (h : Beside place leaf c c') :
    Agree place leaf (ofStage message x) c (ofStage message x') c' := by
  rcases hx with rfl | ⟨⟨e, rfl⟩, e', rfl⟩
  · cases x' with
    | ok a => exact ⟨rfl, h⟩
    | error failure => cases failure <;> exact ⟨rfl, h.out, h.files⟩
  · exact ⟨rfl, h.out, h.files⟩

theorem agree_reading {message : ε → String} {stage stage' : FileTree → Except (Failure ε) α}
    (hstage : Alike (stage c.files) (stage' c'.files)) (h : Beside place leaf c c') :
    Agree place leaf (reading message stage) c (reading message stage') c' :=
  agree_ofStage hstage h

theorem agree_writing {message : ε → String}
    {stage : FileTree → Except (Failure ε) α × FileTree}
    (hstage : (stage c'.files).1 = (stage c.files).1 ∧
      Laid (stage c.files).2 place leaf (stage c'.files).2) (h : Beside place leaf c c') :
    Agree place leaf (writing message stage) c (writing message stage) c' := by
  have hx : Alike (stage c.files).1 (stage c'.files).1 := .inl hstage.1
  have hbeside : Beside place leaf { c with files := (stage c.files).2 }
      { c' with files := (stage c'.files).2 } := ⟨h.out, hstage.2⟩
  exact agree_ofStage hx hbeside

/-- One model, whether it is loaded from the one file or the other. -/
theorem agree_load {document document' heading heading' : String} {api : Api}
    (hapi : Api.load c.files heading (Path.ofText document) = .ok api)
    (hapi' : Api.load c'.files heading' (Path.ofText document') = .ok api)
    (h : Beside place leaf c c') :
    Agree place leaf (load document heading) c (load document' heading') c' := by
  have hload : Yields (load document heading) c api _ := yields_load.2 ⟨hapi, rfl⟩
  have hload' : Yields (load document' heading') c' api _ := yields_load.2 ⟨hapi', rfl⟩
  unfold Yields at hload hload'
  unfold Agree
  rw [hload, hload']
  exact ⟨rfl, h.out, h.files⟩

/-! ### Generating code -/

/-- Generating code neither reads what is at the place nor changes it: the place is not that of the
configuration or of a template file, and it is apart from the output directory. -/
structure StandsAside (t : FileTree) (place : Place) (source base directory : Path) : Prop where
  configuration : t.locate source ≠ .ok place
  templates : ∀ c, Configuration.fromFile t source = .ok c → ∀ file ∈ c.templateFiles,
    t.locate (base.seenFrom (Path.ofText file.templatePath)) ≠ .ok place
  output : directory.Apart place

variable {bytes : List UInt8} {document document' heading heading' : String} {api : Api}

/-- With the same model from two files, the same code is generated. -/
theorem agree_generateAt {configuration templates directory : Path}
    (haside : StandsAside c.files place configuration templates directory)
    (hapi : Api.load c.files heading (Path.ofText document) = .ok api)
    (hapi' : Api.load c'.files heading' (Path.ofText document') = .ok api)
    (h : Beside place (.file bytes) c c') :
    Agree place (.file bytes) (generateAt document heading configuration templates directory) c
      (generateAt document' heading' configuration templates directory) c' := by
  unfold generateAt
  -- stage by stage: each ends alike on both sides, and hands on two consoles that are beside
  refine (agree_reading (Configuration.alike_fromFile h.files haside.configuration) h).bind ?_
  intro configured d₁ d₁' hy₁ hy₁' _
  obtain ⟨hconfigured, rfl⟩ := yields_reading.1 hy₁
  obtain ⟨-, rfl⟩ := yields_reading.1 hy₁'
  refine (agree_load hapi hapi' h).bind ?_
  intro model d₂ d₂' hy₂ hy₂' h₂
  obtain ⟨-, rfl⟩ := yields_load.1 hy₂
  obtain ⟨-, rfl⟩ := yields_load.1 hy₂'
  have htemplates := TemplateSet.alike_ofConfiguration h.files
    (haside.templates configured hconfigured)
  refine (agree_reading htemplates h₂).bind ?_
  intro set d₃ d₃' hy₃ hy₃' _
  obtain ⟨-, rfl⟩ := yields_reading.1 hy₃
  obtain ⟨-, rfl⟩ := yields_reading.1 hy₃'
  refine (agree_ofStage (.refl _) h₂).bind ?_
  intro files d₄ d₄' hy₄ hy₄' _
  obtain ⟨-, rfl⟩ := yields_ofStage.1 hy₄
  obtain ⟨-, rfl⟩ := yields_ofStage.1 hy₄'
  refine (agree_writing (TargetFiles.writeTree_of_laid files haside.output h₂.files) h₂).bind ?_
  intro _ d₅ d₅' _ _ h₅
  exact agree_print _ h₅

theorem agree_generate {configuration output : String} {templates : Option String}
    (haside : StandsAside c.files place (Path.ofText configuration)
      (templatesPath templates (Path.ofText configuration)) (Path.ofText output))
    (hapi : Api.load c.files heading (Path.ofText document) = .ok api)
    (hapi' : Api.load c'.files heading' (Path.ofText document') = .ok api)
    (h : Beside place (.file bytes) c c') :
    Agree place (.file bytes) (generate document heading configuration templates output) c
      (generate document' heading' configuration templates output) c' := by
  rw [generate_eq, generate_eq]
  refine (agree_pathOf configuration h).bind ?_
  intro configurationPath d₁ d₁' hy₁ hy₁' _
  obtain ⟨-, rfl, rfl⟩ := yields_pathOf.1 hy₁
  obtain ⟨-, -, rfl⟩ := yields_pathOf.1 hy₁'
  refine (agree_templatesOf templates _ h).bind ?_
  intro templateDirectory d₂ d₂' hy₂ hy₂' _
  obtain ⟨-, rfl, rfl⟩ := yields_templatesOf.1 hy₂
  obtain ⟨-, -, rfl⟩ := yields_templatesOf.1 hy₂'
  refine (agree_pathOf output h).bind ?_
  intro directory d₃ d₃' hy₃ hy₃' _
  obtain ⟨-, rfl, rfl⟩ := yields_pathOf.1 hy₃
  obtain ⟨-, -, rfl⟩ := yields_pathOf.1 hy₃'
  exact agree_generateAt haside hapi hapi' h

/-! ### Storing a model -/

/-- A path with the suffix of stored models is not a mark, and has a name. -/
theorem of_suffix {output : String} (h : (Path.ofText output).suffix = Artifact.suffix) :
    output ≠ "--" ∧ (Path.ofText output).names ≠ [] := by
  refine ⟨?_, ?_⟩
  · rintro rfl
    exact absurd h (by decide +kernel)
  · intro hnames
    rw [Path.suffix, hnames] at h
    exact absurd h (by decide)

/-- A model that can be stored is stored where a path leads. -/
theorem exists_yields_scrape {output : String}
    (hapi : Api.load c.files heading (Path.ofText document) = .ok api)
    (hdepth : ¬ api.TooDeep) (hsuffix : (Path.ofText output).suffix = Artifact.suffix)
    (hplace : c.files.locate (Path.ofText output) = .ok place)
    (hfree : c.files.entryAt? place ≠ some .directory) :
    ∃ d, Yields (scrape document heading (some output)) c () d ∧
      Laid c.files place (.file (Text.encodeUtf8 (Artifact.fileText api))) d.files := by
  have hstorable : ∀ m ∈ api.members, m.type.depth ≤ TypeDescriptor.depthLimit :=
    fun m hm => Nat.not_lt.1 fun hd => hdepth ⟨m, hm, hd⟩
  obtain ⟨hmark, hnames⟩ := of_suffix hsuffix
  obtain ⟨t', hstored, hlaid⟩ := Artifact.exists_toFile hstorable hplace hnames hfree
  refine ⟨{ files := t'
            out := c.out ++ ("Model written to '" ++ (Path.ofText output).text ++ "'.") ++ "\n"
            err := c.err ++ loadedNote (Path.ofText document) api ++ "\n" }, ?_, hlaid⟩
  unfold scrape
  simp only [yields_bind, yields_load, yields_pathOf, yields_writing, yields_print]
  refine ⟨api, _, ⟨hapi, rfl⟩, _, _, ⟨hmark, rfl, rfl⟩, (), _, ⟨?_, rfl⟩, ?_⟩
  · dsimp only
    rw [hstored]
  · dsimp only
    rw [hstored]

/-- A model with a type of too many wrappers is not stored. -/
theorem exists_ends_scrape_of_deep {output : String} {m : Member}
    (hapi : Api.load c.files heading (Path.ofText document) = .ok api) (hm : m ∈ api.members)
    (hdepth : TypeDescriptor.depthLimit < m.type.depth)
    (hsuffix : (Path.ofText output).suffix = Artifact.suffix)
    (hplace : c.files.locate (Path.ofText output) = .ok place) :
    ∃ d, Ends (scrape document heading (some output)) c (.interrupted .typeTooDeep) d ∧
      ∀ q, d.files.entryAt? q = c.files.entryAt? q := by
  obtain ⟨hmark, hnames⟩ := of_suffix hsuffix
  obtain ⟨t', hstored, hsame⟩ := Artifact.exists_toFile_of_deep hm hdepth hplace hnames
  refine ⟨{ files := t'
            out := c.out
            err := c.err ++ loadedNote (Path.ofText document) api ++ "\n" }, ?_, hsame⟩
  unfold scrape
  -- loading goes well, and so does reading the option; the run ends in the stage that stores
  rw [ends_bind]
  refine .inr ⟨api, _, yields_load.2 ⟨hapi, rfl⟩, ?_⟩
  dsimp only
  rw [ends_bind]
  refine .inr ⟨_, _, yields_pathOf.2 ⟨hmark, rfl, rfl⟩, ?_⟩
  rw [ends_bind]
  exact .inl (ends_writing_of_interrupted hstored)

/-- A model that can be stored is printed as its file would hold it. -/
theorem exists_yields_scrape_none
    (hapi : Api.load c.files heading (Path.ofText document) = .ok api) (hdepth : ¬ api.TooDeep) :
    ∃ d, Yields (scrape document heading none) c () d ∧
      d.out.toList = c.out.toList ++ Artifact.fileText api := by
  have hstorable : ∀ m ∈ api.members, m.type.depth ≤ TypeDescriptor.depthLimit :=
    fun m hm => Nat.not_lt.1 fun hd => hdepth ⟨m, hm, hd⟩
  have hw : Artifact.write Artifact.fileIndent api = .ok _ :=
    Artifact.write_eq_ok.2 ⟨hstorable, rfl⟩
  refine ⟨{ files := c.files
            out := c.out ++ String.ofList (Json.text Artifact.fileIndent
              (Artifact.ofVersioned (Artifact.ofApi api))) ++ "\n"
            err := c.err ++ loadedNote (Path.ofText document) api ++ "\n" }, ?_, ?_⟩
  · unfold scrape
    rw [yields_bind]
    refine ⟨api, _, yields_load.2 ⟨hapi, rfl⟩, ?_⟩
    dsimp only
    rw [hw]
    exact yields_print.2 rfl
  · simp [Artifact.fileText]

end Session

open Session

variable {t t' : FileTree} {place : Place} {leaf : Entry} {arguments arguments' : List String}
  {asked asked' : Command}

/-- Two runs end alike and leave alike what their commands do. -/
theorem run_of_agree (hparse : Command.parse arguments = .ok asked)
    (hparse' : Command.parse arguments' = .ok asked')
    (h : Agree place leaf (command asked) { files := t } (command asked') { files := t' }) :
    (run arguments' t').1 = (run arguments t).1 ∧
      Beside place leaf (run arguments t).2 (run arguments' t').2 := by
  obtain ⟨houtcome, hbeside⟩ := h
  unfold run
  rw [start_eq hparse, start_eq hparse']
  rcases hr : (command asked).run.run { files := t } with ⟨outcome, c⟩
  rcases hr' : (command asked').run.run { files := t' } with ⟨outcome', c'⟩
  rw [hr, hr'] at houtcome hbeside
  obtain rfl : outcome' = outcome := houtcome
  cases outcome' <;> exact ⟨rfl, hbeside⟩

/-- A stored model stands for its document.  The model of a document, if none of its types has too
many wrappers, is stored wherever a path with the suffix of stored models leads to no directory,
and the file holds what a run without that path prints.  If the file stands aside in generating
code, the same code is generated of it as of the document: the run ends in the same way, with the
same output, and leaves the same files beside the stored model. -/
theorem run_stored {document heading stored heading' configuration output : String}
    {templates : Option String} {api : Api} {scraping printing direct again : List String}
    (hscraping : Command.parse scraping = .ok (.scrape document heading (some stored)))
    (hprinting : Command.parse printing = .ok (.scrape document heading none))
    (hdirect : Command.parse direct =
      .ok (.generate document heading configuration templates output))
    (hagain : Command.parse again = .ok (.generate stored heading' configuration templates output))
    (hapi : Api.load t heading (Path.ofText document) = .ok api) (hdepth : ¬ api.TooDeep)
    (hsuffix : (Path.ofText stored).suffix = Artifact.suffix)
    (hplace : t.locate (Path.ofText stored) = .ok place)
    (hfree : t.entryAt? place ≠ some .directory)
    (haside : StandsAside t place (Path.ofText configuration)
      (templatesPath templates (Path.ofText configuration)) (Path.ofText output)) :
    (run scraping t).1 = .exit 0 ∧
    (run scraping t).2.files.entryAt? place =
      some (.file (Text.encodeUtf8 (run printing t).2.out.toList)) ∧
    (run again (run scraping t).2.files).1 = (run direct t).1 ∧
    (run again (run scraping t).2.files).2.out = (run direct t).2.out ∧
    (∀ other, other ≠ place → (run again (run scraping t).2.files).2.files.entryAt? other =
      (run direct t).2.files.entryAt? other) ∧
    (run again (run scraping t).2.files).2.files.entryAt? place =
      some (.file (Text.encodeUtf8 (run printing t).2.out.toList)) := by
  obtain ⟨c, hstored, hlaid⟩ := exists_yields_scrape (c := { files := t }) hapi hdepth hsuffix
    hplace hfree
  obtain ⟨d, hprinted, hout⟩ := exists_yields_scrape_none (c := { files := t }) hapi hdepth
  have hstorable : ∀ m ∈ api.members, Artifact.Storable m := fun m hm =>
    ⟨Api.admissible_of_load hapi m hm, Nat.not_lt.1 fun hd => hdepth ⟨m, hm, hd⟩⟩
  have hloaded : Api.load c.files heading' (Path.ofText stored) = .ok api :=
    Artifact.load_of_laid hstorable hsuffix hplace hlaid
  rw [run_of_yields hscraping hstored, run_of_yields hprinting hprinted, hout]
  have hagree : Agree place (.file (Text.encodeUtf8 (Artifact.fileText api)))
      (command (.generate document heading configuration templates output)) { files := t }
      (command (.generate stored heading' configuration templates output)) { files := c.files } :=
    agree_generate haside hapi hloaded ⟨rfl, hlaid⟩
  obtain ⟨hending, hleft⟩ := run_of_agree hdirect hagain hagree
  exact ⟨rfl, hlaid.here, hending, hleft.out, hleft.files.elsewhere, hleft.files.here⟩

/-- A configuration with one template file. -/
def sampleConfiguration : String :=
  "integer_type: I\nstring_type: S\nboolean_type: B\narray_type: L\noptional_type: O\n" ++
    "template_files:\n- template_path: t\n  target_path: x\n  resolve_strategy: FOR_ALL_DTOS\n"

/-- A document of one table, a configuration and its template file. -/
def sampleFiles (table : Table) : FileTree :=
  .directory [("api.html", .file (Text.encodeUtf8 table.written.toList)),
    ("api.yaml", .file (Text.encodeUtf8 sampleConfiguration.toList)),
    ("t", .file (Text.encodeUtf8 "\x7b\x7b dtos[0].name.original \x7d\x7d".toList))]

/-- A table with one field. -/
def sampleTable : Table := .dto "A" [⟨"a", "Array of B", "Optional"⟩]

theorem fromFile_sampleFiles (table : Table) :
    Configuration.fromFile (sampleFiles table) (Path.ofText "api.yaml") =
      .ok ⟨"I", "S", "B", "L", "O", [], [⟨"t", "x", "FOR_ALL_DTOS"⟩]⟩ := by
  have htext : sampleConfiguration.toList = _ :=
    toList_append_of_eq String.toList_ofList String.toList_ofList
  have hread : Configuration.read "api.yaml" sampleConfiguration =
      .ok ⟨"I", "S", "B", "L", "O", [], [⟨"t", "x", "FOR_ALL_DTOS"⟩]⟩ :=
    Configuration.read_of_toList htext (by decide +kernel)
  have hcr : '\r' ∉ sampleConfiguration.toList := by
    rw [htext]
    decide +kernel
  have hplace : (sampleFiles table).locate (Path.ofText "api.yaml") = .ok ["api.yaml"] := rfl
  exact Configuration.fromFile_of_encoded hplace rfl hcr hread

/-- Beside the document there is room for a stored model. -/
theorem standsAside_sampleFiles (table : Table) :
    StandsAside (sampleFiles table) ["api.json"] (Path.ofText "api.yaml")
      (templatesPath none (Path.ofText "api.yaml")) (Path.ofText "generated") where
  configuration := by
    have hplace : (sampleFiles table).locate (Path.ofText "api.yaml") = .ok ["api.yaml"] := rfl
    rw [hplace]
    decide
  templates := by
    intro c hc file hfile
    cases (fromFile_sampleFiles table).symm.trans hc
    obtain rfl := List.mem_singleton.1 hfile
    have hplace : (sampleFiles table).locate
        ((templatesPath none (Path.ofText "api.yaml")).seenFrom (Path.ofText "t")) =
      .ok ["t"] := rfl
    rw [hplace]
    decide
  output := by
    have hnames : (Path.ofText "generated").names = [] ++ ["generated"] := rfl
    rw [Path.Apart, hnames, Place.visits_concat, Place.visits_nil]
    decide

/-- The model of one table is stored and generated from. -/
theorem run_stored_sample :
    (run ["scrape", "api.html", "--output", "api.json"] (sampleFiles sampleTable)).1 = .exit 0 ∧
    (run ["generate", "api.json", "--config", "api.yaml"]
        (run ["scrape", "api.html", "--output", "api.json"] (sampleFiles sampleTable)).2.files).1 =
      (run ["generate", "api.html", "--config", "api.yaml"] (sampleFiles sampleTable)).1 := by
  have hplain : Document.PlainTable sampleTable := by decide
  have hapi : Api.load (sampleFiles sampleTable) "h4" (Path.ofText "api.html") =
      .ok (Api.ofTables [sampleTable]) :=
    Document.load_written hplain (Document.cr_notMem_written (by decide) (by decide))
      (by decide +kernel) rfl rfl
  have hdepth : ¬ (Api.ofTables [sampleTable]).TooDeep := by
    have hmembers : (Api.ofTables [sampleTable]).members =
        [⟨"a", .optional (.array (.reference "B"))⟩] := by
      decide +kernel
    rintro ⟨m, hm, hd⟩
    rw [hmembers] at hm
    obtain rfl := List.mem_singleton.1 hm
    exact absurd hd (by decide)
  have h := @run_stored _ ["api.json"] "api.html" "h4" "api.json" "h4" "api.yaml" "generated" none _
    ["scrape", "api.html", "--output", "api.json"] ["scrape", "api.html"]
    ["generate", "api.html", "--config", "api.yaml"]
    ["generate", "api.json", "--config", "api.yaml"] rfl rfl rfl rfl hapi hdepth
    (by decide +kernel) rfl (by decide +kernel) (standsAside_sampleFiles sampleTable)
  exact ⟨h.1, h.2.2.1⟩

/-! ### Types of too many wrappers -/

/-- The type cell of an integer in so many arrays. -/
def arraysCell (n : Nat) : List Char :=
  (List.replicate n "Array of ".toList).flatten ++ "Integer".toList

theorem arraysCell_succ (n : Nat) : arraysCell (n + 1) = "Array of ".toList ++ arraysCell n := by
  rw [arraysCell, List.replicate_succ, List.flatten_cons, List.append_assoc]
  rfl

theorem ofCompact_arraysCell (n : Nat) (written : List Char) :
    TypeDescriptor.ofCompact written (Text.withoutBlanks (arraysCell n)) =
      Artifact.nestedArrays n := by
  induction n generalizing written with
  | zero =>
    have hword : Text.withoutBlanks (arraysCell 0) = ['I', 'n', 't', 'e', 'g', 'e', 'r'] := by
      decide
    have hprimitive : TypeDescriptor.primitive? ['I', 'n', 't', 'e', 'g', 'e', 'r'] =
        some .integer := by
      decide
    rw [hword, TypeDescriptor.ofCompact, hprimitive]
    · rfl
    · simp
  | succ n ih =>
    have hword : Text.withoutBlanks "Array of ".toList = ['A', 'r', 'r', 'a', 'y', 'o', 'f'] := by
      decide
    rw [arraysCell_succ, Text.withoutBlanks_append, hword]
    simp only [List.cons_append, List.nil_append]
    rw [TypeDescriptor.ofCompact, ih, Artifact.nestedArrays]

theorem mem_arraysCell {n : Nat} {c : Char} (h : c ∈ arraysCell n) :
    c ∈ "Array of Integer".toList := by
  have hwords : "Array of ".toList ⊆ "Array of Integer".toList ∧
      "Integer".toList ⊆ "Array of Integer".toList := by
    decide
  rcases List.mem_append.1 h with h | h
  · obtain ⟨word, hword, hc⟩ := List.mem_flatten.1 h
    rw [List.eq_of_mem_replicate hword] at hc
    exact hwords.1 hc
  · exact hwords.2 h

theorem plainText_arraysCell (n : Nat) : Document.PlainText (arraysCell n) where
  noBracket h := absurd (mem_arraysCell h) (by decide)
  noReference h := absurd (mem_arraysCell h) (by decide)
  visible := ⟨'I', List.mem_append_right _ (by decide), by decide⟩

/-- A table with a field in three hundred arrays. -/
def deepTable : Table := .dto "A" [⟨"a", String.ofList (arraysCell 300), "-"⟩]

theorem plainTable_deepTable : Document.PlainTable deepTable where
  name := by decide
  cells := by
    intro texts htexts text htext
    obtain rfl := List.mem_singleton.1 htexts
    rcases List.mem_cons.1 htext with rfl | htext
    · decide
    · rcases List.mem_cons.1 htext with rfl | htext
      · rw [String.toList_ofList]
        exact plainText_arraysCell 300
      · obtain rfl := List.mem_singleton.1 htext
        decide

theorem cr_notMem_deepTable : '\r' ∉ deepTable.written.toList := by
  have hcell : '\r' ∉ arraysCell 300 := fun h => absurd (mem_arraysCell h) (by decide)
  have hcells : deepTable.cells = [["a", String.ofList (arraysCell 300), "-"]] := rfl
  refine Document.cr_notMem_written (by decide) ?_
  simp [hcells, hcell]

/-- The model of a document is not stored if a type of it has three hundred wrappers, whatever else
holds of the path; so there is no file to generate code from. -/
theorem deep_model_not_stored :
    (∃ api, Api.load (sampleFiles deepTable) "h4" (Path.ofText "api.html") = .ok api) ∧
    (Path.ofText "api.json").suffix = Artifact.suffix ∧
    (sampleFiles deepTable).locate (Path.ofText "api.json") = .ok ["api.json"] ∧
    (sampleFiles deepTable).entryAt? ["api.json"] = none ∧
    StandsAside (sampleFiles deepTable) ["api.json"] (Path.ofText "api.yaml")
      (templatesPath none (Path.ofText "api.yaml")) (Path.ofText "generated") ∧
    (run ["scrape", "api.html", "--output", "api.json"] (sampleFiles deepTable)).1 =
      .interrupted .typeTooDeep ∧
    (run ["scrape", "api.html", "--output", "api.json"]
      (sampleFiles deepTable)).2.files.entryAt? ["api.json"] = none := by
  have hapi : Api.load (sampleFiles deepTable) "h4" (Path.ofText "api.html") =
      .ok (Api.ofTables [deepTable]) :=
    Document.load_written plainTable_deepTable cr_notMem_deepTable (by decide +kernel) rfl rfl
  have hmember : ⟨"a", Artifact.nestedArrays 300⟩ ∈ (Api.ofTables [deepTable]).members := by
    have htype : TypeDescriptor.parse (String.ofList (arraysCell 300)) "-" =
        Artifact.nestedArrays 300 := by
      unfold TypeDescriptor.parse
      rw [if_neg (by decide +kernel), String.toList_ofList]
      exact ofCompact_arraysCell 300 _
    rw [← htype]
    exact List.mem_singleton.2 rfl
  have hdepth : TypeDescriptor.depthLimit < (Artifact.nestedArrays 300).depth := by
    rw [Artifact.depth_nestedArrays]
    decide
  have hsuffix : (Path.ofText "api.json").suffix = Artifact.suffix := by decide +kernel
  have hplace : (sampleFiles deepTable).locate (Path.ofText "api.json") = .ok ["api.json"] := rfl
  have hparse : Command.parse ["scrape", "api.html", "--output", "api.json"] =
      .ok (.scrape "api.html" "h4" (some "api.json")) := rfl
  obtain ⟨d, hends, hsame⟩ := exists_ends_scrape_of_deep (c := { files := sampleFiles deepTable })
    hapi hmember hdepth hsuffix hplace
  refine ⟨⟨_, hapi⟩, hsuffix, hplace, rfl, standsAside_sampleFiles _, ?_, ?_⟩
  · rw [run_of_ends hparse hends]
  · rw [run_of_ends hparse hends, hsame]
    rfl

end ApiScribe.CommandLine
