import ApiScribe.CommandLine.Session
import ApiScribe.Proofs.Output.Interruption
import ApiScribe.Proofs.StoredModel
import ApiScribe.Proofs.Traversal

/-!
# What interrupts a stage

The inputs on which a stage has no words for its failure.  Each stage that reads files has a
predicate of the tree, the path and the interruption, and a theorem that it is interrupted exactly
then.
-/

namespace ApiScribe

variable {t : FileTree} {p : Path} {i : Interruption}

/-! ### Reading a file -/

/-- A file cannot be read as text, and that is no refusal: its path holds a null character, or its
bytes are no text. -/
inductive Unreadable (t : FileTree) (p : Path) : Interruption → Prop
  | path (h : '\x00' ∈ p.text.toList) : Unreadable t p .nullCharacter
  | bytes {place : Place} {bytes : List UInt8} {e : Text.Utf8Error}
      (hplace : t.locate p = .ok place) (hfile : t.find? place = some (.file bytes))
      (h : Text.decodeUtf8 bytes = .error e) : Unreadable t p (.notUtf8 e)

namespace FileTree

theorem readText_of_null (h : '\x00' ∈ p.text.toList) : t.readText p = .error .nullCharacter := by
  unfold readText read
  rw [locate_of_null h]
  rfl

theorem readText_eq_nullCharacter :
    t.readText p = .error .nullCharacter ↔ '\x00' ∈ p.text.toList := by
  refine ⟨?_, readText_of_null⟩
  intro h
  unfold readText at h
  rcases Outcome.bind_eq_error.1 h with h | ⟨bytes, -, h⟩
  · rcases ordinary_of_read h with ⟨r, shown, he⟩ | ⟨-, hnull⟩
    · cases he
    · exact hnull
  · -- the decoding has another error
    split at h <;> cases h

theorem read_eq_ok {bytes : List UInt8} : t.read p = .ok bytes ↔
    ∃ place, t.locate p = .ok place ∧ t.find? place = some (.file bytes) := by
  unfold read
  rw [Outcome.bind_eq_ok]
  refine exists_congr fun place => and_congr_right fun _ => ?_
  constructor
  · intro h
    split at h
    · next hfile =>
      cases h
      exact hfile
    · cases h
    · cases h
  · intro hfile
    rw [hfile]
    rfl

theorem readText_eq_notUtf8 {e : Text.Utf8Error} : t.readText p = .error (.notUtf8 e) ↔
    ∃ place bytes, t.locate p = .ok place ∧ t.find? place = some (.file bytes) ∧
      Text.decodeUtf8 bytes = .error e := by
  unfold readText
  rw [Outcome.bind_eq_error]
  constructor
  · rintro (h | ⟨bytes, hread, h⟩)
    · rcases ordinary_of_read h with ⟨r, shown, he⟩ | ⟨he, -⟩ <;> cases he
    · obtain ⟨place, hplace, hfile⟩ := read_eq_ok.1 hread
      split at h
      · cases h
      · next hbytes =>
        cases h
        exact ⟨place, bytes, hplace, hfile, hbytes⟩
  · rintro ⟨place, bytes, hplace, hfile, hbytes⟩
    refine .inr ⟨bytes, read_eq_ok.2 ⟨place, hplace, hfile⟩, ?_⟩
    rw [hbytes]
    rfl

end FileTree

/-- The words of a stage that has none for a null character and none for a file that is no text. -/
structure FileWords {ε : Type} (words : FileError → Failure ε) : Prop where
  refused : ∀ r shown i, words (.refused r shown) ≠ .interrupted i
  nullCharacter : words .nullCharacter = .interrupted .nullCharacter
  notUtf8 : ∀ e, words (.notUtf8 e) = .interrupted (.notUtf8 e)

theorem fileWords_ofFile {ε : Type} (words : String → ε) : FileWords (Failure.ofFile words) where
  refused := by
    intro r shown i h
    cases h
  nullCharacter := rfl
  notUtf8 _ := rfl

/-- A stage without words for a file that is no text is interrupted by it. -/
theorem readText_mapError {ε : Type} {words : FileError → Failure ε} (hwords : FileWords words) :
    (t.readText p).mapError words = .error (.interrupted i) ↔ Unreadable t p i := by
  rw [Outcome.mapError_eq_error]
  constructor
  · rintro ⟨e, hread, he⟩
    cases e with
    | refused r shown => exact absurd he (hwords.refused r shown i)
    | nullCharacter =>
      cases hwords.nullCharacter.symm.trans he
      exact .path (FileTree.readText_eq_nullCharacter.1 hread)
    | notUtf8 u =>
      cases (hwords.notUtf8 u).symm.trans he
      obtain ⟨place, bytes, hplace, hfile, hbytes⟩ := FileTree.readText_eq_notUtf8.1 hread
      exact .bytes hplace hfile hbytes
  · intro h
    cases h with
    | path h => exact ⟨_, FileTree.readText_of_null h, hwords.nullCharacter⟩
    | bytes hplace hfile hbytes =>
      exact ⟨_, FileTree.readText_eq_notUtf8.2 ⟨_, _, hplace, hfile, hbytes⟩, hwords.notUtf8 _⟩

/-- A stage with words for a file that is no text is interrupted only by a null character. -/
theorem readText_mapError_ofText {ε : Type} {words : String → ε} :
    (t.readText p).mapError (Failure.ofText words) = .error (.interrupted i) ↔
      '\x00' ∈ p.text.toList ∧ i = .nullCharacter := by
  rw [Outcome.mapError_eq_error, ← FileTree.readText_eq_nullCharacter (t := t)]
  constructor
  · rintro ⟨e, hread, he⟩
    cases e with
    | nullCharacter =>
      cases he
      exact ⟨hread, rfl⟩
    | refused r shown => cases he
    | notUtf8 u => cases he
  · rintro ⟨hread, rfl⟩
    exact ⟨_, hread, rfl⟩

/-! ### Loading a model -/

/-- No model can be loaded, and no stage has words for it. -/
inductive Unloadable (t : FileTree) (p : Path) : Interruption → Prop
  | stored {i : Interruption} (hp : p.suffix = Artifact.suffix) (h : Unreadable t p i) :
    Unloadable t p i
  /-- A stored model holds an integer of too many digits. -/
  | storedInteger {text : String} {digits : Nat} (hp : p.suffix = Artifact.suffix)
      (htext : t.readText p = .ok text)
      (h : Json.read text.toList = .error (.integerTooLong digits)) :
    Unloadable t p (.integerTooLong digits)
  /-- The brackets of a stored model are nested too deeply. -/
  | storedNesting {text : String} {container : Json.Container} (hp : p.suffix = Artifact.suffix)
      (htext : t.readText p = .ok text)
      (h : Json.read text.toList = .error (.nestedTooDeep container)) :
    Unloadable t p (.nestedTooDeep container)
  | document (hp : p.suffix ≠ Artifact.suffix) (h : '\x00' ∈ p.text.toList) :
    Unloadable t p .nullCharacter
  /-- A document holds a malformed marked section. -/
  | markedSection {text detail : String} (hp : p.suffix ≠ Artifact.suffix)
      (htext : t.readText p = .ok text) (h : Document.parse text = .error (.section detail)) :
    Unloadable t p (.markup detail)
  /-- A document refers to a character by a number of too many digits. -/
  | reference {text : String} {digits : Nat} (hp : p.suffix ≠ Artifact.suffix)
      (htext : t.readText p = .ok text) (h : Document.parse text = .error (.tooLong digits)) :
    Unloadable t p (.integerTooLong digits)

theorem map_eq_interrupted {ε δ : Type} {f : ε → δ} {failure : Failure ε} :
    failure.map f = .interrupted i ↔ failure = .interrupted i := by
  cases failure <;> simp [Failure.map]

theorem mapError_map_eq_interrupted {ε δ α : Type} {f : ε → δ} {x : Except (Failure ε) α} :
    x.mapError (Failure.map f) = .error (.interrupted i) ↔ x = .error (.interrupted i) := by
  rw [Outcome.mapError_eq_error]
  constructor
  · rintro ⟨failure, rfl, h⟩
    rw [map_eq_interrupted.1 h]
  · rintro rfl
    exact ⟨_, rfl, rfl⟩

theorem mapError_rejected_ne_interrupted {ε α : Type} {x : Except ε α} :
    x.mapError Failure.rejected ≠ .error (.interrupted i) := by
  intro h
  obtain ⟨e, -, he⟩ := Outcome.mapError_eq_error.1 h
  cases he

theorem Artifact.read_eq_interrupted {text : String} :
    Artifact.read text = .error (.interrupted i) ↔
      (∃ digits, Json.read text.toList = .error (.integerTooLong digits) ∧
        i = .integerTooLong digits) ∨
      ∃ container, Json.read text.toList = .error (.nestedTooDeep container) ∧
        i = .nestedTooDeep container := by
  unfold Artifact.read Artifact.readWithin Json.read
  split
  · next h => simp [h]
  · next digits h => simp [h, eq_comm]
  · next container h => simp [h, eq_comm]
  · next v h =>
    rw [h]
    split <;> simp

theorem Document.scrapeText_eq_interrupted {heading text : String} :
    Document.scrapeText heading text = .error (.interrupted i) ↔
      (∃ detail, Document.parse text = .error (.section detail) ∧ i = .markup detail) ∨
        ∃ digits, Document.parse text = .error (.tooLong digits) ∧ i = .integerTooLong digits := by
  unfold Document.scrapeText
  split
  · next detail h => simp [h, eq_comm]
  · next digits h => simp [h, eq_comm]
  · next document h =>
    rw [h]
    constructor
    · intro h
      exact absurd h mapError_rejected_ne_interrupted
    · rintro (⟨_, h, -⟩ | ⟨_, h, -⟩) <;> cases h

/-- Loading a model is interrupted exactly where no stage has words for its failure. -/
theorem Api.load_eq_interrupted {heading : String} :
    Api.load t heading p = .error (.interrupted i) ↔ Unloadable t p i := by
  unfold Api.load
  split
  · next hp =>
    rw [mapError_map_eq_interrupted, Artifact.fromFile, Outcome.bind_eq_error,
      readText_mapError (fileWords_ofFile _)]
    simp only [Outcome.mapError_eq_ok, Artifact.read_eq_interrupted]
    constructor
    · rintro (h | ⟨text, htext, ⟨digits, h, rfl⟩ | ⟨container, h, rfl⟩⟩)
      · exact .stored hp h
      · exact .storedInteger hp htext h
      · exact .storedNesting hp htext h
    · intro h
      cases h with
      | stored _ h => exact .inl h
      | storedInteger _ htext h => exact .inr ⟨_, htext, .inl ⟨_, h, rfl⟩⟩
      | storedNesting _ htext h => exact .inr ⟨_, htext, .inr ⟨_, h, rfl⟩⟩
      | document h => exact absurd hp h
      | markedSection h => exact absurd hp h
      | reference h => exact absurd hp h
  · next hp =>
    rw [mapError_map_eq_interrupted]
    show (Document.fromFile t p >>= Api.ofDocument heading) = _ ↔ _
    rw [Outcome.bind_eq_error, Document.fromFile, readText_mapError_ofText]
    simp only [Outcome.mapError_eq_ok, Api.ofDocument, Outcome.map_eq_error,
      Document.scrapeText_eq_interrupted]
    constructor
    · rintro (⟨h, rfl⟩ | ⟨text, htext, ⟨detail, h, rfl⟩ | ⟨digits, h, rfl⟩⟩)
      · exact .document hp h
      · exact .markedSection hp htext h
      · exact .reference hp htext h
    · intro h
      cases h with
      | stored h => exact absurd h hp
      | storedInteger h => exact absurd h hp
      | storedNesting h => exact absurd h hp
      | document _ h => exact .inl ⟨h, rfl⟩
      | markedSection _ htext h => exact .inr ⟨_, htext, .inl ⟨_, h, rfl⟩⟩
      | reference _ htext h => exact .inr ⟨_, htext, .inr ⟨_, h, rfl⟩⟩

/-! ### Loading a configuration -/

/-- No configuration can be loaded, and the stage has no words for it. -/
inductive Unconfigurable (t : FileTree) (p : Path) : Interruption → Prop
  | file {i : Interruption} (h : Unreadable t p i) : Unconfigurable t p i
  /-- A scalar of the configuration has the form of a value that does not exist. -/
  | scalar {text : String} {fault : Yaml.ValueFault} (htext : t.readText p = .ok text)
      (h : Yaml.read text.toList = .error (.value fault)) : Unconfigurable t p (.scalar fault)
  /-- The wrapper of arrays fails before it is known what it needs. -/
  | arrayType {text : String} {d : Datum} {c : Configuration} {fault : Template.Fault}
      (htext : t.readText p = .ok text) (hd : Yaml.read text.toList = .ok d)
      (hc : Schema.configuration d = .ok c)
      (h : Template.compile .inspection c.arrayType.toList = .error (.failed fault)) :
    Unconfigurable t p (.template fault)
  /-- The wrapper of optionals does. -/
  | optionalType {text : String} {d : Datum} {c : Configuration} {fault : Template.Fault}
      (htext : t.readText p = .ok text) (hd : Yaml.read text.toList = .ok d)
      (hc : Schema.configuration d = .ok c)
      (harray : ∀ fault, Template.compile .inspection c.arrayType.toList ≠ .error (.failed fault))
      (h : Template.compile .inspection c.optionalType.toList = .error (.failed fault)) :
    Unconfigurable t p (.template fault)

theorem Wrapper.problem?_eq_error {key source : String} : Wrapper.problem? key source = .error i ↔
    ∃ fault, Template.compile .inspection source.toList = .error (.failed fault) ∧
      i = .template fault := by
  unfold Wrapper.problem?
  split
  · next h => simp [h]
  · next h => simp [h, eq_comm]
  · next h =>
    rw [h]
    split <;> simp

theorem Wrapper.exists_problem?_iff {key source : String} :
    (∃ problem, Wrapper.problem? key source = .ok problem) ↔
      ∀ fault, Template.compile .inspection source.toList ≠ .error (.failed fault) := by
  cases h : Wrapper.problem? key source with
  | error i =>
    obtain ⟨fault, hfault, -⟩ := Wrapper.problem?_eq_error.1 h
    simp [hfault]
  | ok problem =>
    refine ⟨fun _ fault hfault => ?_, fun _ => ⟨problem, rfl⟩⟩
    rw [Wrapper.problem?_eq_error.2 ⟨fault, hfault, rfl⟩] at h
    cases h

theorem Configuration.wrapperProblems_eq_error {c : Configuration} : c.wrapperProblems = .error i ↔
    ∃ fault, i = .template fault ∧
      (Template.compile .inspection c.arrayType.toList = .error (.failed fault) ∨
        (∀ fault, Template.compile .inspection c.arrayType.toList ≠ .error (.failed fault)) ∧
          Template.compile .inspection c.optionalType.toList = .error (.failed fault)) := by
  have hoptional (array : Option Wrapper.Problem) :
      (Wrapper.problem? "optional_type" c.optionalType >>= fun optional =>
        pure (array.toList ++ optional.toList)) = .error i ↔
        Wrapper.problem? "optional_type" c.optionalType = .error i := by
    rw [Outcome.bind_eq_error]
    refine ⟨?_, .inl⟩
    rintro (h | ⟨optional, -, h⟩)
    · exact h
    · cases h
  unfold wrapperProblems
  rw [Outcome.bind_eq_error]
  simp only [hoptional, Wrapper.problem?_eq_error]
  constructor
  · rintro (⟨fault, h, rfl⟩ | ⟨array, harray, fault, h, rfl⟩)
    · exact ⟨fault, rfl, .inl h⟩
    · exact ⟨fault, rfl, .inr ⟨Wrapper.exists_problem?_iff.1 ⟨array, harray⟩, h⟩⟩
  · rintro ⟨fault, rfl, h | ⟨harray, h⟩⟩
    · exact .inl ⟨fault, h, rfl⟩
    · obtain ⟨array, ha⟩ := Wrapper.exists_problem?_iff.2 harray
      exact .inr ⟨array, ha, fault, h, rfl⟩

theorem Configuration.usable_eq_interrupted {label : String} {c : Configuration (List Nat)} :
    Configuration.usable label c = .error (.interrupted i) ↔
      c.replaceUnpaired.wrapperProblems = .error i := by
  unfold usable
  split
  · next h => simp [h]
  · next h => simp [h]
  · next h => simp [h]

theorem Configuration.ofDatum_eq_interrupted {label : String} {d : Datum} :
    Configuration.ofDatum label d = .error (.interrupted i) ↔
      ∃ c, Schema.configuration d = .ok c ∧ c.wrapperProblems = .error i := by
  unfold ofDatum Schema.configuration
  split
  · split
    · next h => simp [h, Except.map]
    · next c h => simp [h, Except.map, usable_eq_interrupted]
  · next hd =>
    constructor
    · intro h
      cases h
    · rintro ⟨c, hc, -⟩
      cases d with
      | record members => exact absurd rfl (hd members)
      | text s => cases hc
      | unpaired points => cases hc
      | illFormedText => cases hc
      | list items => cases hc
      | scalar => cases hc

theorem Configuration.read_eq_interrupted {label text : String} :
    Configuration.read label text = .error (.interrupted i) ↔
      (∃ fault, Yaml.read text.toList = .error (.value fault) ∧ i = .scalar fault) ∨
        ∃ d c, Yaml.read text.toList = .ok d ∧ Schema.configuration d = .ok c ∧
          c.wrapperProblems = .error i := by
  rw [read, Outcome.map_eq_error, parse]
  split
  · next h => simp [h]
  · next fault h => simp [h, eq_comm]
  · next d h => simp [h, ofDatum_eq_interrupted]

/-- What the stage says about a file of a configuration that cannot be read. -/
def Configuration.fileWords (p : Path) : FileError → Failure ConfigurationError
  | .refused .missing _ => .rejected (.notFound p.text)
  | e => Failure.ofFile ConfigurationError.unreadable e

theorem Configuration.fileWords_fileWords (p : Path) : FileWords (fileWords p) where
  refused := by
    intro r shown i h
    cases r <;> cases h
  nullCharacter := rfl
  notUtf8 _ := rfl

theorem Configuration.fromFile_eq :
    fromFile t p = (t.readText p).mapError (fileWords p) >>= Configuration.read p.text := by
  unfold fromFile parseFile
  split
  · next text h =>
    rw [h]
    rfl
  · next h =>
    rw [h]
    rfl
  · next e hne h =>
    have hwords : fileWords p e = Failure.ofFile ConfigurationError.unreadable e := by
      unfold fileWords
      split
      · next shown => exact (hne shown rfl).elim
      · rfl
    rw [h, ← hwords]
    rfl

/-- Loading a configuration is interrupted exactly where the stage has no words for its failure. -/
theorem Configuration.fromFile_eq_interrupted :
    Configuration.fromFile t p = .error (.interrupted i) ↔ Unconfigurable t p i := by
  rw [fromFile_eq, Outcome.bind_eq_error, readText_mapError (fileWords_fileWords p)]
  simp only [Outcome.mapError_eq_ok, read_eq_interrupted, wrapperProblems_eq_error]
  constructor
  · rintro (h | ⟨text, htext, ⟨fault, h, rfl⟩ | ⟨d, c, hd, hc, fault, rfl, h | ⟨harray, h⟩⟩⟩)
    · exact .file h
    · exact .scalar htext h
    · exact .arrayType htext hd hc h
    · exact .optionalType htext hd hc harray h
  · intro h
    cases h with
    | file h => exact .inl h
    | scalar htext h => exact .inr ⟨_, htext, .inl ⟨_, h, rfl⟩⟩
    | arrayType htext hd hc h => exact .inr ⟨_, htext, .inr ⟨_, _, hd, hc, _, rfl, .inl h⟩⟩
    | optionalType htext hd hc harray h =>
      exact .inr ⟨_, htext, .inr ⟨_, _, hd, hc, _, rfl, .inr ⟨harray, h⟩⟩⟩

/-! ### Loading templates -/

/-- No set of templates can be made, and the stage has no words for it. -/
inductive Uncompilable (t : FileTree) (directory : Path) (c : Configuration) : Interruption → Prop
  /-- The path of a template file holds a null character, and all before it are registered. -/
  | path {before after : List TemplateFile} {template : TemplateFile} {sources : Sources}
      (hsplit : c.templateFiles = before ++ template :: after)
      (hbefore : before.foldlM (Sources.registerTemplateFile t directory) (Sources.wrappers c) =
        .ok sources)
      (hname : template.templatePath ∉ Sources.reserved)
      (h : '\x00' ∈ (directory.seenFrom (Path.ofText template.templatePath)).text.toList) :
    Uncompilable t directory c .nullCharacter
  /-- A template fails before it is rendered, and all before it are compiled. -/
  | source {before after : Sources} {name source : String} {fault : Template.Fault}
      (hsources : Sources.ofConfiguration t directory c = .ok (before ++ (name, source) :: after))
      (hbefore : ∀ x ∈ before, ∃ compiled, TemplateSet.compile x.1 x.2 = .ok compiled)
      (h : Template.compile .rendering source.toList = .error (.failed fault)) :
    Uncompilable t directory c (.template fault)

theorem TemplateSet.compile_eq_interrupted {name source : String} :
    compile name source = .error (.interrupted i) ↔
      ∃ fault, Template.compile .rendering source.toList = .error (.failed fault) ∧
        i = .template fault := by
  unfold compile
  rw [Outcome.mapError_eq_error]
  constructor
  · rintro ⟨refusal, h, hi⟩
    cases refusal with
    | ill e => cases hi
    | failed fault =>
      cases hi
      exact ⟨fault, h, rfl⟩
  · rintro ⟨fault, h, rfl⟩
    exact ⟨_, h, rfl⟩

theorem Sources.registerTemplateFile_eq_interrupted {directory : Path} {sources : Sources}
    {template : TemplateFile} :
    registerTemplateFile t directory sources template = .error (.interrupted i) ↔
      template.templatePath ∉ reserved ∧
        '\x00' ∈ (directory.seenFrom (Path.ofText template.templatePath)).text.toList ∧
          i = .nullCharacter := by
  have hregister (sources : Sources) (content : String) :
      ¬ ((sources.register template.templatePath content).mapError Failure.rejected >>=
        fun sources => (sources.register (Renderer.filenameName template.templatePath)
          template.targetPath).mapError Failure.rejected) = .error (.interrupted i) := by
    intro h
    rcases Outcome.bind_eq_error.1 h with h | ⟨sources, -, h⟩
    · exact mapError_rejected_ne_interrupted h
    · exact mapError_rejected_ne_interrupted h
  unfold registerTemplateFile
  by_cases hname : reserved.contains template.templatePath
  · have hmem : template.templatePath ∈ reserved := by simpa using hname
    simp only [hname, if_true, hmem, not_true_eq_false, false_and, iff_false]
    intro h
    cases h
  · have hmem : template.templatePath ∉ reserved := by simpa using hname
    simp only [hname, hmem, not_false_eq_true, true_and]
    show (readTemplate t directory template.templatePath >>= fun content => _) = _ ↔ _
    rw [Outcome.bind_eq_error, readTemplate, readText_mapError_ofText]
    constructor
    · rintro (h | ⟨content, -, h⟩)
      · exact h
      · exact absurd h (hregister sources content)
    · exact .inl

theorem Sources.ofConfiguration_eq_interrupted {directory : Path} {c : Configuration} :
    ofConfiguration t directory c = .error (.interrupted i) ↔
      ∃ before template after sources, c.templateFiles = before ++ template :: after ∧
        before.foldlM (registerTemplateFile t directory) (wrappers c) = .ok sources ∧
        registerTemplateFile t directory sources template = .error (.interrupted i) := by
  unfold ofConfiguration
  rw [Outcome.bind_eq_error, ← Outcome.foldlM_eq_error]
  constructor
  · rintro (h | ⟨sources, -, h⟩)
    · exact h
    · exact absurd h mapError_rejected_ne_interrupted
  · exact .inl

theorem TemplateSet.ofSources_eq_interrupted {sources : Sources} :
    ofSources sources = .error (.interrupted i) ↔
      ∃ before name source after, sources = before ++ (name, source) :: after ∧
        (∀ x ∈ before, ∃ compiled, compile x.1 x.2 = .ok compiled) ∧
        compile name source = .error (.interrupted i) := by
  have hmap : ofSources sources = (sources.mapM fun x =>
      (compile x.1 x.2).map fun compiled => (x.1, compiled)).map TemplateSet.mk := rfl
  rw [hmap, Outcome.map_eq_error, Outcome.mapM_eq_error]
  simp only [Outcome.map_eq_error, Outcome.map_eq_ok]
  constructor
  · rintro ⟨before, ⟨name, source⟩, after, hsplit, hbefore, h⟩
    refine ⟨before, name, source, after, hsplit, ?_, h⟩
    intro x hx
    obtain ⟨_, compiled, hcompiled, -⟩ := hbefore x hx
    exact ⟨compiled, hcompiled⟩
  · rintro ⟨before, name, source, after, hsplit, hbefore, h⟩
    refine ⟨before, (name, source), after, hsplit, ?_, h⟩
    intro x hx
    obtain ⟨compiled, hcompiled⟩ := hbefore x hx
    exact ⟨_, compiled, hcompiled, rfl⟩

/-- Making a set of templates is interrupted exactly where the stage has no words for its
failure. -/
theorem TemplateSet.ofConfiguration_eq_interrupted {directory : Path} {c : Configuration} :
    ofConfiguration t directory c = .error (.interrupted i) ↔ Uncompilable t directory c i := by
  unfold ofConfiguration
  rw [Outcome.bind_eq_error, Sources.ofConfiguration_eq_interrupted]
  simp only [Sources.registerTemplateFile_eq_interrupted, ofSources_eq_interrupted,
    compile_eq_interrupted]
  constructor
  · rintro (⟨before, template, after, sources, hsplit, hbefore, hname, h, rfl⟩ |
      ⟨sources, hsources, before, name, source, after, rfl, hbefore, fault, h, rfl⟩)
    · exact .path hsplit hbefore hname h
    · exact .source hsources hbefore h
  · intro h
    cases h with
    | path hsplit hbefore hname h => exact .inl ⟨_, _, _, _, hsplit, hbefore, hname, h, rfl⟩
    | source hsources hbefore h =>
      exact .inr ⟨_, hsources, _, _, _, _, rfl, hbefore, _, h, rfl⟩

/-! ### Storing a model -/

/-- A type of the model has too many wrappers to be stored. -/
def Api.TooDeep (api : Api) : Prop := ∃ m ∈ api.members, TypeDescriptor.depthLimit < m.type.depth

theorem Artifact.write_eq_interrupted {indent : Option Nat} {api : Api} :
    write indent api = .error i ↔ api.TooDeep ∧ i = .typeTooDeep := by
  by_cases hdeep : api.TooDeep
  · obtain ⟨m, hm, hd⟩ := hdeep
    rw [write_eq_error hm hd]
    constructor
    · intro h
      cases h
      exact ⟨⟨m, hm, hd⟩, rfl⟩
    · rintro ⟨-, rfl⟩
      rfl
  · have hdepth : ∀ m ∈ api.members, m.type.depth ≤ TypeDescriptor.depthLimit :=
      fun m hm => Nat.not_lt.1 fun hd => hdeep ⟨m, hm, hd⟩
    rw [write_eq_ok.2 ⟨hdepth, rfl⟩]
    constructor
    · intro h
      cases h
    · rintro ⟨h, -⟩
      exact absurd h hdeep

open FileTree.Action in
/-- A model cannot be stored, and the stage has no words for it. -/
inductive Unstorable (api : Api) (p : Path) (t : FileTree) : Interruption → Prop
  | path (hdepth : ¬ api.TooDeep) (h : NullCounts t p) : Unstorable api p t .nullCharacter
  /-- The directories above the file are made before the model is looked at. -/
  | above (hdepth : api.TooDeep) (h : '\x00' ∈ p.parent.text.toList) :
    Unstorable api p t .nullCharacter
  | depth {t' : FileTree} (hdepth : api.TooDeep)
      (h : Succeeds (makeDirectories true p.parent) t () t') : Unstorable api p t .typeTooDeep

open FileTree.Action in
theorem unstorable_iff_of_not_tooDeep {api : Api} (hdepth : ¬ api.TooDeep) :
    Unstorable api p t i ↔ NullCounts t p ∧ i = .nullCharacter := by
  constructor
  · intro h
    cases h with
    | path _ h => exact ⟨h, rfl⟩
    | above h => exact absurd h hdepth
    | depth h => exact absurd h hdepth
  · rintro ⟨h, rfl⟩
    exact .path hdepth h

open FileTree.Action in
theorem unstorable_iff_of_tooDeep {api : Api} (hdepth : api.TooDeep) :
    Unstorable api p t i ↔ ('\x00' ∈ p.parent.text.toList ∧ i = .nullCharacter) ∨
      (∃ t', Succeeds (makeDirectories true p.parent) t () t') ∧ i = .typeTooDeep := by
  constructor
  · intro h
    cases h with
    | path h => exact absurd hdepth h
    | above _ h => exact .inl ⟨h, rfl⟩
    | depth _ h => exact .inr ⟨⟨_, h⟩, rfl⟩
  · rintro (⟨h, rfl⟩ | ⟨⟨t', h⟩, rfl⟩)
    · exact .above hdepth h
    · exact .depth hdepth h

open FileTree.Action in
/-- Storing a model is interrupted exactly where the stage has no words for its failure. -/
theorem Artifact.toFile_eq_interrupted {api : Api} :
    (toFile api p t).1 = .error (.interrupted i) ↔ Unstorable api p t i := by
  unfold toFile
  cases hw : write fileIndent api with
  | ok text =>
    have hdepth : ¬ api.TooDeep := by
      intro h
      rw [write_eq_interrupted.2 ⟨h, rfl⟩] at hw
      cases hw
    rw [unstorable_iff_of_not_tooDeep hdepth,
      ← fails_store_iff (Text.encodeUtf8 (text.toList ++ ['\n']))]
    dsimp only
    rcases hrun : (store p (Text.encodeUtf8 (text.toList ++ ['\n']))).run.run t with ⟨e | u, t'⟩
    · exact Fails.interrupted_iff hrun alwaysOrdinary_store
    · constructor
      · intro h
        cases h
      · rintro ⟨h, -⟩
        exact absurd h (Succeeds.not_fails hrun)
  | error i' =>
    -- the directories above the file are made before the depth is noticed
    obtain ⟨hdepth, rfl⟩ := write_eq_interrupted.1 hw
    rw [unstorable_iff_of_tooDeep hdepth, ← fails_makeDirectories_iff (t := t)]
    dsimp only
    rcases hrun : (makeDirectories true p.parent).run.run t with ⟨e | u, t'⟩
    · have hnone : ¬ ∃ t'', Succeeds (makeDirectories true p.parent) t () t'' := by
        rintro ⟨t'', h⟩
        cases hrun.symm.trans h
      simp only [hnone, false_and, or_false]
      exact Fails.interrupted_iff hrun alwaysOrdinary_makeDirectories
    · have hnone : ¬ ∃ t'', Fails (makeDirectories true p.parent) t .nullCharacter t'' :=
        Succeeds.not_fails hrun
      constructor
      · intro h
        cases h
        exact .inr ⟨⟨t', hrun⟩, rfl⟩
      · rintro (⟨h, -⟩ | ⟨-, rfl⟩)
        · exact absurd h hnone
        · rfl

end ApiScribe
