import ApiScribe.Proofs.Resolution.Collisions

/-!
# Which collision is reported

A run watches for two files of one name twice: while it renders a template file, and when it adds
the files of that template file to those it has.  What it finds can be told from the filenames
alone.  `Resolver.renderedFilenames` renders everything and compares nothing; a run fails at the
first template file whose filenames are not distinct from each other and from those before them
(`resolve_collision`), for a repetition among its own filenames if there is one
(`batch_of_each`), otherwise for those that are there already (`addTemplateFiles_of_filenames`).

The renderer may have a memory, and it may change the data.
-/

namespace ApiScribe

namespace Run

variable {μ α β : Type} {x : Run μ α} {memory : μ}

/-- Both steps of a run that succeeds do, the second one from the memory that the first one
leaves. -/
theorem outcome_andThen_eq_ok {f : α → Run μ β} {b : β} :
    (x.andThen f memory).outcome = .ok b ↔
      ∃ a, (x memory).outcome = .ok a ∧ (f a (x memory).memory).outcome = .ok b := by
  cases hx : (x memory).outcome with
  | error e =>
    rw [outcome_andThen_of_error hx]
    simp
  | ok a =>
    rw [outcome_andThen_of_ok hx]
    simp

theorem memory_andThen_of_ok {a : α} (h : (x memory).outcome = .ok a) (f : α → Run μ β) :
    (x.andThen f memory).memory = (f a (x memory).memory).memory := by
  unfold andThen
  cases hx : x memory with
  | mk calls outcome after =>
    rw [hx] at h
    cases h
    rfl

/-- The run succeeds, whatever the renderer remembers. -/
def Total (x : Run μ α) : Prop := ∀ memory, ∃ a, (x memory).outcome = .ok a

theorem total_done (a : α) : (done a : Run μ α).Total := fun _ => ⟨a, rfl⟩

theorem Total.andThen {f : α → Run μ β} (hx : x.Total) (hf : ∀ a, (f a).Total) :
    (x.andThen f).Total := by
  intro memory
  obtain ⟨a, ha⟩ := hx memory
  obtain ⟨b, hb⟩ := hf a (x memory).memory
  exact ⟨b, outcome_andThen_eq_ok.2 ⟨a, ha, hb⟩⟩

theorem Total.each {f : α → Run μ β} (hf : ∀ a, (f a).Total) (as : List α) :
    (each f as).Total := by
  induction as with
  | nil => exact total_done []
  | cons a as ih => exact (hf a).andThen fun _ => ih.andThen fun _ => total_done _

end Run

namespace Resolver

variable {μ : Type} {r : Resolver μ}

/-! ### Rendering without comparing -/

variable (r) in
/-- The filenames of each template file, equal or not. -/
def filenames : Views → List TemplateFile → Run μ (List (List String))
  | _, [] => .done []
  | views, template :: more => do
    let strategy ← Run.ofOutcome (Strategy.ofName template.strategy)
    let made ← Run.each (r.targetFile template.templatePath) (passes strategy views)
    let rest ← filenames (viewsAfter strategy views (made.map Prod.snd)) more
    return made.map (fun x => x.1.filename) :: rest

variable (r) in
/-- The filenames that the template files of the configuration are rendered to for a model, a list
for each template file. -/
def renderedFilenames (api : Api) : Run μ (List (List String)) := do
  r.filenames (← r.views api) r.configuration.templateFiles

/-! ### The files of one template file -/

theorem batch_cons (path : String) (files : TargetFiles) (data : Data) (ds : List Data) :
    r.batch path files (data :: ds) = (r.targetFile path data).andThen fun x =>
      (Run.ofOutcome (files.insert x.1)).andThen fun files =>
        (r.batch path files ds).andThen fun y => .done (y.1, x.2 :: y.2) := by
  rw [batch]
  rfl

/-- A batch goes as its renderings do until a filename comes that is there already. -/
theorem batch_of_each {path : String} {ds : List Data} {made : List (TargetFile × Data)}
    {memory : μ} (files : TargetFiles)
    (h : (Run.each (r.targetFile path) ds memory).outcome = .ok made) :
    (∃ files', (r.batch path files ds memory).outcome = .ok (files', made.map Prod.snd) ∧
      files'.filenames = files.filenames ++ made.map (fun x => x.1.filename) ∧
      (r.batch path files ds memory).memory =
        (Run.each (r.targetFile path) ds memory).memory) ∨
    ∃ name, FirstRepeated (files.filenames ++ made.map fun x => x.1.filename) name ∧
      (r.batch path files ds memory).outcome = .error (.duplicateFilename name) := by
  induction ds generalizing made memory files with
  | nil =>
    cases h
    exact .inl ⟨files, rfl, (List.append_nil _).symm, rfl⟩
  | cons data ds ih =>
    rw [Run.each] at h ⊢
    obtain ⟨⟨file, after⟩, hfile, h⟩ := Run.outcome_andThen_eq_ok.1 h
    obtain ⟨rest, hrest, h⟩ := Run.outcome_andThen_eq_ok.1 h
    cases h
    rw [batch_cons, Run.outcome_andThen_of_ok hfile, Run.memory_andThen_of_ok hfile,
      Run.memory_andThen_of_ok hfile, Run.memory_andThen_of_ok hrest]
    -- the file is compared with those before it as soon as it is rendered
    cases hinsert : files.insert file with
    | error e =>
      obtain ⟨hmem, rfl⟩ := TargetFiles.insert_eq_error.1 hinsert
      exact .inr ⟨file.filename, ⟨files.filenames, _, rfl, files.distinct, hmem⟩, rfl⟩
    | ok next =>
      have hnames := TargetFiles.filenames_of_insert hinsert (rest.map fun x => x.1.filename)
      rw [Run.outcome_ofOutcome_ok]
      rcases ih next hrest with ⟨files', hbatch, hfiles', hmemory⟩ | ⟨name, hname, hbatch⟩
      · refine .inl ⟨files', ?_, hfiles'.trans hnames, ?_⟩
        · rw [Run.outcome_andThen_of_ok hbatch]
          rfl
        · exact (Run.memory_andThen_of_ok hbatch _).trans hmemory
      · refine .inr ⟨name, hnames ▸ hname, ?_⟩
        exact Run.outcome_andThen_of_error hbatch _

/-! ### The files of all template files -/

/-- What is wrong with the filenames of a template file after those of others: one of them comes
twice among them, or, if none does, some of them are there already. -/
inductive Collides (earlier batch : List String) : ResolveError → Prop
  | within {name : String} (h : FirstRepeated batch name) :
    Collides earlier batch (.duplicateFilename name)
  | across {names : List String} (hbatch : batch.Nodup) (hnames : names ≠ [])
      (horder : names.Sublist batch)
      (hmem : ∀ name, name ∈ names ↔ name ∈ batch ∧ name ∈ earlier) :
    Collides earlier batch (.duplicateFilenames names)

/-- Everything is rendered exactly if the first template file is and then the others are, for the
views and the memory that it leaves. -/
theorem filenames_cons_eq_ok {views : Views} {template : TemplateFile}
    {templates : List TemplateFile} {batches : List (List String)} {memory : μ} :
    (r.filenames views (template :: templates) memory).outcome = .ok batches ↔
      ∃ s made rest, Strategy.ofName template.strategy = .ok s ∧
        (Run.each (r.targetFile template.templatePath) (passes s views) memory).outcome =
          .ok made ∧
        (r.filenames (viewsAfter s views (made.map Prod.snd)) templates
          (Run.each (r.targetFile template.templatePath) (passes s views) memory).memory).outcome =
          .ok rest ∧
        batches = made.map (fun x => x.1.filename) :: rest := by
  rw [filenames]
  constructor
  · intro h
    obtain ⟨s, hs, h⟩ := Run.outcome_andThen_eq_ok.1 h
    obtain ⟨made, hmade, h⟩ := Run.outcome_andThen_eq_ok.1 h
    obtain ⟨rest, hrest, h⟩ := Run.outcome_andThen_eq_ok.1 h
    cases h
    exact ⟨s, made, rest, hs, hmade, hrest, rfl⟩
  · rintro ⟨s, made, rest, hs, hmade, hrest, rfl⟩
    apply Run.outcome_andThen_eq_ok.2 ⟨s, hs, _⟩
    apply Run.outcome_andThen_eq_ok.2 ⟨made, hmade, _⟩
    exact Run.outcome_andThen_eq_ok.2 ⟨rest, hrest, rfl⟩

theorem Collides.not_nodup {earlier batch : List String} {e : ResolveError}
    (h : Collides earlier batch e) : ¬ (earlier ++ batch).Nodup := by
  intro hnodup
  obtain ⟨-, hbatch, hapart⟩ := List.nodup_append.1 hnodup
  cases h with
  | within h => exact h.not_nodup hbatch
  | @across names _ hnames _ hmem =>
    obtain ⟨name, hname⟩ := List.exists_mem_of_ne_nil names hnames
    obtain ⟨hin, hearlier⟩ := (hmem name).1 hname
    exact hapart name hearlier name hin rfl

theorem addTemplateFiles_cons (views : Views) (files : TargetFiles) (template : TemplateFile)
    (templates : List TemplateFile) :
    r.addTemplateFiles views files (template :: templates) =
      (Run.ofOutcome (Strategy.ofName template.strategy)).andThen fun s =>
        (r.batch template.templatePath .empty (passes s views)).andThen fun x =>
          (Run.ofOutcome (files.insertAll x.1)).andThen fun files =>
            r.addTemplateFiles (viewsAfter s views x.2) files templates := by
  rw [addTemplateFiles]
  rfl

/-- A run over template files goes as their renderings do until one of them collides. -/
theorem addTemplateFiles_of_filenames {views : Views} {templates : List TemplateFile}
    {batches : List (List String)} {memory : μ} (files : TargetFiles)
    (h : (r.filenames views templates memory).outcome = .ok batches) :
    (∃ files', (r.addTemplateFiles views files templates memory).outcome = .ok files' ∧
      files'.filenames = files.filenames ++ batches.flatten) ∨
    ∃ before batch after e, batches = before ++ batch :: after ∧
      (files.filenames ++ before.flatten).Nodup ∧
      Collides (files.filenames ++ before.flatten) batch e ∧
      (r.addTemplateFiles views files templates memory).outcome = .error e := by
  induction templates generalizing views files memory batches with
  | nil =>
    cases h
    exact .inl ⟨files, rfl, (List.append_nil _).symm⟩
  | cons template templates ih =>
    obtain ⟨s, made, batches, hs, hmade, hbatches, rfl⟩ := filenames_cons_eq_ok.1 h
    rw [addTemplateFiles_cons, hs, Run.outcome_ofOutcome_ok]
    have hfirst : (files.filenames ++ ([] : List (List String)).flatten).Nodup := by
      rw [List.flatten_nil, List.append_nil]
      exact files.distinct
    -- the batch is compared with itself first, so what it shares with the files before it counts
    -- only if it repeats nothing
    rcases batch_of_each .empty hmade with ⟨new, hbatch, hnew, hmemory⟩ | ⟨name, hname, hbatch⟩
    · rw [Run.outcome_andThen_of_ok hbatch]
      cases hinsert : files.insertAll new with
      | error e =>
        obtain ⟨hshared, rfl⟩ := TargetFiles.insertAll_eq_error.1 hinsert
        refine .inr ⟨[], _, batches, _, rfl, hfirst, ?_, rfl⟩
        have hnew' : new.filenames = made.map (fun x => x.1.filename) := hnew
        rw [← hnew']
        refine .across new.distinct hshared TargetFiles.shared_sublist ?_
        intro name
        simpa using TargetFiles.mem_shared
      | ok merged =>
        have hmerged : merged.filenames =
            files.filenames ++ made.map (fun x => x.1.filename) := by
          rw [TargetFiles.filenames_of_toList (TargetFiles.insertAll_eq_ok.1 hinsert)]
          exact congrArg (files.filenames ++ ·) hnew
        rw [Run.outcome_ofOutcome_ok, hmemory]
        rcases ih merged hbatches with
          ⟨files', hrest, hfiles'⟩ | ⟨before, batch, after, e, rfl, hnodup, hcollides, hrest⟩
        · refine .inl ⟨files', hrest, ?_⟩
          rw [hfiles', hmerged, List.flatten_cons, List.append_assoc]
        · have hbefore : merged.filenames ++ before.flatten =
              files.filenames ++ (made.map (fun x => x.1.filename) :: before).flatten := by
            rw [hmerged, List.flatten_cons, List.append_assoc]
          rw [hbefore] at hnodup hcollides
          exact .inr ⟨_ :: before, batch, after, e, rfl, hnodup, hcollides, hrest⟩
    · exact .inr ⟨[], _, batches, _, rfl, hfirst, .within hname,
        Run.outcome_andThen_of_error hbatch _⟩

/-! ### Runs in which nothing else can fail -/

section
variable (hrenders : ∀ name data memory,
  ∃ rendered, (r.renderer.render name data memory).1 = .ok rendered)
include hrenders

theorem total_run (name : String) (data : Data) : (r.renderer.run name data).Total :=
  hrenders name data

theorem total_textOf (name : String) (data : Data) : (r.textOf name data).Total :=
  (total_run hrenders name data).andThen fun _ => Run.total_done _

theorem total_typeText (t : TypeDescriptor) : (r.typeText t).Total := by
  induction t with
  | integer | string | boolean | reference => exact Run.total_done _
  | array element ih => exact ih.andThen fun _ => total_textOf hrenders _ _
  | optional inner ih => exact ih.andThen fun _ => total_textOf hrenders _ _

theorem total_rename (identifier : String) (owner : Names) :
    (r.rename identifier owner).Total := by
  have hask : (r.renderer.ask (Renderer.renameName identifier)).Total := fun _ => ⟨_, rfl⟩
  apply hask.andThen
  intro known
  split
  · exact total_textOf hrenders _ _
  · exact Run.total_done _

theorem total_memberView (owner : Names) (m : Member) : (r.memberView owner m).Total :=
  (total_rename hrenders _ _).andThen fun _ =>
    (total_typeText hrenders _).andThen fun _ => Run.total_done _

theorem total_views (api : Api) : (r.views api).Total := by
  have hdto : ∀ dto, (r.dtoView dto).Total := fun dto =>
    (total_rename hrenders _ _).andThen fun _ =>
      (Run.Total.each (total_memberView hrenders _) _).andThen fun _ => Run.total_done _
  have hmethod : ∀ method, (r.methodView method).Total := fun method =>
    (total_rename hrenders _ _).andThen fun _ =>
      (Run.Total.each (total_memberView hrenders _) _).andThen fun _ => Run.total_done _
  exact (Run.Total.each hdto _).andThen fun _ =>
    (Run.Total.each hmethod _).andThen fun _ => Run.total_done _

theorem total_targetFile (path : String) (data : Data) : (r.targetFile path data).Total :=
  (total_run hrenders _ _).andThen fun _ =>
    (total_run hrenders _ _).andThen fun _ => Run.total_done _

theorem total_filenames {templates : List TemplateFile}
    (hstrategies : ∀ template ∈ templates, ∃ s : Strategy, template.strategy = s.name)
    (views : Views) : (r.filenames views templates).Total := by
  induction templates generalizing views with
  | nil => exact Run.total_done []
  | cons template templates ih =>
    obtain ⟨⟨s, hs⟩, hmore⟩ := List.forall_mem_cons.1 hstrategies
    intro memory
    obtain ⟨made, hmade⟩ := Run.Total.each (total_targetFile hrenders template.templatePath)
      (passes s views) memory
    obtain ⟨rest, hrest⟩ := ih hmore (viewsAfter s views (made.map Prod.snd)) _
    exact ⟨_, filenames_cons_eq_ok.2
      ⟨s, made, rest, Strategy.ofName_eq_ok.2 hs, hmade, hrest, rfl⟩⟩

end

/-- Which collision of filenames ends a run.

If all strategies are known and every rendering succeeds, every template file has its list of
filenames.  The run succeeds if no name comes twice in all of them.  Otherwise it fails at the first
template file whose names, put after all those before it, make a repetition.  If a name comes twice
among these alone, the error has the first one that does, whatever else is wrong; if none does, the
error has those of them that came before, each once and in their order. -/
theorem resolve_collision (r : Resolver μ) (api : Api) (memory : μ) :
    ((∀ template ∈ r.configuration.templateFiles, ∃ s : Strategy, template.strategy = s.name) →
      (∀ name data memory, ∃ rendered, (r.renderer.render name data memory).1 = .ok rendered) →
      ∃ batches, (r.renderedFilenames api memory).outcome = .ok batches) ∧
    ∀ batches, (r.renderedFilenames api memory).outcome = .ok batches →
      (batches.flatten.Nodup → ∃ files, (r.resolve api memory).outcome = .ok files ∧
        files.filenames = batches.flatten) ∧
      (¬ batches.flatten.Nodup → ∃ before batch after, batches = before ++ batch :: after ∧
        before.flatten.Nodup ∧ ¬ (before ++ [batch]).flatten.Nodup ∧
        (¬ batch.Nodup → ∃ name, FirstRepeated batch name ∧
          (r.resolve api memory).outcome = .error (.duplicateFilename name)) ∧
        (batch.Nodup → ∃ names, names.Sublist batch ∧ names.Nodup ∧
          (∀ name, name ∈ names ↔ name ∈ batch ∧ name ∈ before.flatten) ∧
          (r.resolve api memory).outcome = .error (.duplicateFilenames names))) := by
  refine ⟨?_, ?_⟩
  · intro hstrategies hrenders
    exact (total_views hrenders api).andThen (total_filenames hrenders hstrategies) memory
  · intro batches h
    obtain ⟨views, hviews, hbatches⟩ := Run.outcome_andThen_eq_ok.1 h
    have hresolve : (r.resolve api memory).outcome =
        (r.addTemplateFiles views .empty r.configuration.templateFiles
          (r.views api memory).memory).outcome := Run.outcome_andThen_of_ok hviews _
    rw [hresolve]
    rcases addTemplateFiles_of_filenames .empty hbatches with
      ⟨files, hfiles, hnames⟩ | ⟨before, batch, after, e, rfl, hnodup, hcollides, hfails⟩
    · have hnames' : files.filenames = batches.flatten := hnames
      refine ⟨fun _ => ⟨files, hfiles, hnames'⟩, ?_⟩
      intro hrepeated
      rw [← hnames'] at hrepeated
      exact absurd files.distinct hrepeated
    · have hrepeated : ¬ (before ++ [batch]).flatten.Nodup := by
        rw [List.flatten_append, List.flatten_singleton]
        exact hcollides.not_nodup
      refine ⟨?_, ?_⟩
      · intro hdistinct
        rw [List.append_cons, List.flatten_append] at hdistinct
        exact absurd (List.nodup_append.1 hdistinct).1 hrepeated
      · intro _
        refine ⟨before, batch, after, rfl, hnodup, hrepeated, ?_, ?_⟩
        · intro hbatch
          cases hcollides with
          | within h => exact ⟨_, h, hfails⟩
          | across hdistinct => exact absurd hdistinct hbatch
        · intro hbatch
          cases hcollides with
          | within h => exact absurd hbatch h.not_nodup
          | across _ _ horder hmem => exact ⟨_, horder, horder.nodup hbatch, hmem, hfails⟩

/-- A resolver for a template file that is rendered for each method, and one for each DTO.  Every
text is the name of the entity. -/
def namesAlone : Resolver Unit where
  configuration := ⟨"I", "S", "L", "A", "O", [],
    [⟨"m", "x", "FOR_EACH_METHOD"⟩, ⟨"d", "y", "FOR_EACH_DTO"⟩]⟩
  renderer := .ofAnswers (fun _ => false) fun _ data =>
    let entity := (data.member? "method").or (data.member? "dto")
    match (entity.bind (Data.member? "name")).bind (Data.member? "original") with
    | some (.text s) => .ok ⟨s, data⟩
    | _ => .ok ⟨"", data⟩

/-- The second template file makes `A` a second time, but the error has the name that comes twice
among its own. -/
theorem resolve_collision_both :
    (namesAlone.renderedFilenames ⟨[⟨"A", []⟩, ⟨"B", []⟩, ⟨"B", []⟩], [⟨"A", []⟩]⟩ ()).outcome =
      .ok [["A"], ["A", "B", "B"]] ∧
    (namesAlone.resolve ⟨[⟨"A", []⟩, ⟨"B", []⟩, ⟨"B", []⟩], [⟨"A", []⟩]⟩ ()).outcome =
      .error (.duplicateFilename "B") := by
  have hnames : (namesAlone.renderedFilenames
      ⟨[⟨"A", []⟩, ⟨"B", []⟩, ⟨"B", []⟩], [⟨"A", []⟩]⟩ ()).outcome =
      .ok [["A"], ["A", "B", "B"]] := rfl
  obtain ⟨before, batch, after, heq, -, hrepeated, hwithin, -⟩ :=
    ((resolve_collision namesAlone _ ()).2 _ hnames).2 (by decide)
  have hbatch : batch = ["A", "B", "B"] := by
    rcases before with _ | ⟨first, _ | ⟨second, before⟩⟩
    · cases heq
      exact absurd (by decide) hrepeated
    · cases heq
      rfl
    · have hlength := congrArg List.length heq
      simp at hlength
  subst hbatch
  obtain ⟨name, hname, hfails⟩ := hwithin (by decide)
  have hB : FirstRepeated ["A", "B", "B"] "B" := ⟨["A", "B"], [], rfl, by decide, by decide⟩
  rw [hname.unique hB] at hfails
  exact ⟨hnames, hfails⟩

end Resolver
end ApiScribe
