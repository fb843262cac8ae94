import ApiScribe.Proofs.Closed.Rendering
import ApiScribe.Proofs.Renaming

/-!
# Resolving without a registry

A resolution finds its templates by the names they are registered under.  `Direct.resolve` asks for
no name: it takes each source from where the configuration has it, compiles it and renders it on
its own.  Names are left only as the labels of sources in messages.

Main statement: `TemplateSet.resolve_eq_direct` — as long as no template refers to another one and
no template file has the name of a replacement, both resolutions have the same outcome.
-/

namespace ApiScribe

/-- The set of a single template. -/
def TemplateSet.alone (label : String) (template : Template.Compiled) : TemplateSet :=
  ⟨[(label, template)]⟩

/-! ### The resolution -/

namespace Direct

/-- What a source is rendered to on its own; the label stands in messages. -/
def render (label source : String) (data : Data) : Except (Failure ResolveError) Rendered := do
  let template ← TemplateSet.compile label source
  ((TemplateSet.alone label template).render label data {}).1.mapError .rejected

/-- The text that a source is rendered to on its own. -/
def textOf (label source : String) (data : Data) : Except (Failure ResolveError) String := do
  return (← render label source data).text

section
variable (c : Configuration)

/-- The text of a type: the wrappers are the strings of the configuration. -/
def typeText : TypeDescriptor → Except (Failure ResolveError) String
  | .integer => return c.integerType
  | .string => return c.stringType
  | .boolean => return c.booleanType
  | .reference name => return name
  | .array element => do
    textOf Renderer.arrayName c.arrayType (.record [("value", .text (← typeText element))])
  | .optional inner => do
    textOf Renderer.optionalName c.optionalType (.record [("value", .text (← typeText inner))])

/-- The replacement of an identifier by the first rename of it; the identifier itself without
one. -/
def rename (identifier : String) (owner : Names) : Except (Failure ResolveError) String :=
  match c.renames.find? (·.source == identifier) with
  | some rule => textOf (Renderer.renameName identifier) rule.replacement owner.toData
  | none => .ok identifier

/-- The view of a field or parameter. -/
def memberView (owner : Names) (m : Member) : Except (Failure ResolveError) MemberView := do
  let name ← rename c m.name owner
  let type ← typeText c m.type
  return ⟨name, m.name, type, m.type.isOptional, m.type.referencedName?.map Names.of⟩

/-- The view of a DTO. -/
def dtoView (dto : Dto) : Except (Failure ResolveError) DtoView := do
  let name ← rename c dto.name (Names.of dto.name)
  let fields ← dto.fields.mapM (memberView c (Names.of dto.name))
  return ⟨Names.of name, fields, usedDtoNames dto.name dto.fields⟩

/-- The view of a method. -/
def methodView (method : Method) : Except (Failure ResolveError) MethodView := do
  let name ← rename c method.name (Names.of method.name)
  let parameters ← method.parameters.mapM (memberView c (Names.of method.name))
  return ⟨Names.of name, parameters, usedDtoNames method.name method.parameters⟩

/-- The views of a model. -/
def views (api : Api) : Except (Failure ResolveError) Resolver.Views := do
  let dtos ← api.dtos.mapM (dtoView c)
  let methods ← api.methods.mapM (methodView c)
  return ⟨dtos.map DtoView.toData, methods.map MethodView.toData⟩

end

section
variable (t : FileTree) (directory : Path)

/-- The file of one rendering: its name is the target path of the template file, its text the
content. -/
def targetFile (template : TemplateFile) (data : Data) :
    Except (Failure ResolveError) (TargetFile × Data) := do
  let source ← Sources.readTemplate t directory template.templatePath
  let filename ← render (Renderer.filenameName template.templatePath) template.targetPath data
  let content ← render template.templatePath source filename.data
  return (⟨filename.text, content.text⟩, content.data)

/-- The files of a template file for each of the data, which are given back. -/
def batch (template : TemplateFile) :
    TargetFiles → List Data → Except (Failure ResolveError) (TargetFiles × List Data)
  | files, [] => return (files, [])
  | files, data :: more => do
    let (file, data) ← targetFile t directory template data
    let files ← (files.insert file).mapError .rejected
    let (files, more) ← batch template files more
    return (files, data :: more)

/-- Adds the files of each template file. -/
def addTemplateFiles :
    Resolver.Views → TargetFiles → List TemplateFile → Except (Failure ResolveError) TargetFiles
  | _, files, [] => return files
  | views, files, template :: more => do
    let strategy ← (Strategy.ofName template.strategy).mapError .rejected
    let (new, after) ← batch t directory template TargetFiles.empty
      (Resolver.passes strategy views)
    let files ← (files.insertAll new).mapError .rejected
    addTemplateFiles (Resolver.viewsAfter strategy views after) files more

/-- The files of a model. -/
def resolve (c : Configuration) (api : Api) : Except (Failure ResolveError) TargetFiles := do
  addTemplateFiles t directory (← views c api) TargetFiles.empty c.templateFiles

end
end Direct

/-! ### Runs with the same outcome -/

namespace Run

variable {α β : Type}

/-- A run that starts without memory has the given outcome and ends without memory, and it asks for
no template that is not registered. -/
structure Computes (x : Run Template.Memory α) (y : Except (Failure ResolveError) α) : Prop where
  outcome : (x {}).outcome.mapError .rejected = y
  memory : (x {}).memory = {}
  registered (name reason : String) : (x {}).outcome ≠ .error (.missingTemplate name reason)

theorem computes_done (a : α) : (done a).Computes (.ok a) :=
  ⟨rfl, rfl, fun _ _ h => nomatch h⟩

theorem computes_ofOutcome {x : Except ResolveError α}
    (h : ∀ name reason, x ≠ .error (.missingTemplate name reason)) :
    (ofOutcome x).Computes (x.mapError .rejected) :=
  ⟨rfl, rfl, h⟩

theorem andThen_of_error {x : Run Template.Memory α} {memory memory' : Template.Memory}
    {calls : List Call} {e : ResolveError} (hx : x memory = ⟨calls, .error e, memory'⟩)
    (f : α → Run Template.Memory β) : x.andThen f memory = ⟨calls, .error e, memory'⟩ := by
  unfold Run.andThen
  rw [hx]

theorem andThen_of_ok {x : Run Template.Memory α} {memory memory' : Template.Memory}
    {calls : List Call} {a : α} (hx : x memory = ⟨calls, .ok a, memory'⟩)
    (f : α → Run Template.Memory β) :
    x.andThen f memory = { f a memory' with calls := calls ++ (f a memory').calls } := by
  unfold Run.andThen
  rw [hx]

theorem Computes.andThen {x : Run Template.Memory α} {y : Except (Failure ResolveError) α}
    {f : α → Run Template.Memory β} {g : α → Except (Failure ResolveError) β}
    (hx : x.Computes y) (hf : ∀ a, (f a).Computes (g a)) : (x.andThen f).Computes (y >>= g) := by
  obtain ⟨ho, hm, hr⟩ := hx
  cases hrun : x {} with
  | mk calls outcome memory =>
    rw [hrun] at ho hm hr
    cases hm
    cases ho
    cases outcome with
    | ok a =>
      obtain ⟨ho, hm, hr⟩ := hf a
      have he := andThen_of_ok hrun f
      exact ⟨by rw [he]; exact ho, by rw [he]; exact hm, by rw [he]; exact hr⟩
    | error e =>
      have he := andThen_of_error hrun f
      refine ⟨by rw [he]; rfl, by rw [he], ?_⟩
      intro name reason h
      rw [he] at h
      apply hr name reason
      exact congrArg Except.error (Except.error.inj h)

theorem Computes.each {f : α → Run Template.Memory β} {g : α → Except (Failure ResolveError) β}
    (hf : ∀ a, (f a).Computes (g a)) (as : List α) : (each f as).Computes (as.mapM g) := by
  induction as with
  | nil => exact computes_done []
  | cons a as ih =>
    rw [List.mapM_cons]
    exact (hf a).andThen fun b => ih.andThen fun bs => computes_done _

end Run

/-! ### Steps that ask for no template -/

theorem Strategy.ofName_registered (value name reason : String) :
    Strategy.ofName value ≠ .error (.missingTemplate name reason) := by
  unfold Strategy.ofName
  split <;> simp

namespace TargetFiles

variable (files : TargetFiles)

theorem insert_registered (file : TargetFile) (name reason : String) :
    files.insert file ≠ .error (.missingTemplate name reason) := by
  unfold insert
  split <;> simp

theorem insertAll_registered (other : TargetFiles) (name reason : String) :
    files.insertAll other ≠ .error (.missingTemplate name reason) := by
  unfold insertAll
  split <;> simp

end TargetFiles

/-! ### Renderings -/

namespace TemplateSet

variable {s : TemplateSet} {name source label : String}

theorem find?_alone (label : String) (template : Template.Compiled) :
    (alone label template).find? label = some template := by
  simp [find?, alone]

/-- No template of the set includes, imports or extends one. -/
def IsClosed (s : TemplateSet) : Prop := ∀ entry ∈ s.templates, entry.2.IsClosed

instance (s : TemplateSet) : Decidable s.IsClosed :=
  inferInstanceAs (Decidable (∀ entry ∈ s.templates, entry.2.IsClosed))

theorem IsClosed.of_find? (hs : s.IsClosed) {template : Template.Compiled}
    (h : s.find? name = some template) : template.IsClosed := by
  obtain ⟨before, after, he, -⟩ := List.lookup_eq_some_iff.1 h
  apply hs (name, template)
  rw [he]
  exact List.mem_append_right before List.mem_cons_self

/-- In a closed set a template is rendered as it is on its own. -/
theorem render_eq_alone (hs : s.IsClosed) {template : Template.Compiled}
    (h : s.find? name = some template) (data : Data) :
    s.render name data {} = (alone name template).render name data {} ∧
      (s.render name data {}).2 = {} := by
  have ha := find?_alone name template
  obtain ⟨he, hm⟩ := Template.render_eq_of_isClosed h ha (hs.of_find? h) data
  rw [render_of_find? h, render_of_find? ha, he]
  exact ⟨rfl, hm⟩

/-- A template that is registered is not reported as missing. -/
theorem render_registered {template : Template.Compiled} (h : s.find? name = some template)
    (data : Data) (memory : Template.Memory) (missing reason : String) :
    (s.render name data memory).1 ≠ .error (.missingTemplate missing reason) := by
  rw [render_of_find? h]
  intro he
  obtain ⟨fault, -, hf⟩ := Outcome.mapError_eq_error.1 he
  cases hf

/-- In a closed set a source that is registered is rendered as it is on its own. -/
theorem computes_run (hs : s.IsClosed) (h : s.Holds name source) (data : Data) :
    (s.renderer.run name data).Computes (Direct.render name source data) := by
  obtain ⟨template, hc, hf⟩ := h
  obtain ⟨he, hm⟩ := render_eq_alone hs hf data
  refine ⟨?_, hm, render_registered hf data {}⟩
  unfold Direct.render
  rw [hc]
  exact congrArg (fun x => x.1.mapError Failure.rejected) he

/-- Whether a name is registered is answered at once. -/
theorem computes_ask {α : Type} {f : Bool → Run Template.Memory α}
    {y : Except (Failure ResolveError) α} (h : (f (s.find? name).isSome).Computes y) :
    ((s.renderer.ask name).andThen f).Computes y :=
  ⟨h.outcome, h.memory, h.registered⟩

theorem computes_textOf {c : Configuration} (hs : s.IsClosed) (h : s.Holds name source)
    (data : Data) :
    (Resolver.textOf ⟨c, s.renderer⟩ name data).Computes (Direct.textOf name source data) :=
  (computes_run hs h data).andThen fun rendered => Run.computes_done rendered.text

end TemplateSet

namespace TemplateSet

/-! ### Views -/

open Sources (Assigned)

section
variable {t : FileTree} {directory : Path} {c : Configuration} {s : TemplateSet}
variable (h : ofConfiguration t directory c = .ok s) (hs : s.IsClosed)
include h hs

/-- The wrappers are registered under their own names. -/
theorem computes_typeText (type : TypeDescriptor) :
    (Resolver.typeText ⟨c, s.renderer⟩ type).Computes (Direct.typeText c type) := by
  induction type with
  | integer => exact Run.computes_done _
  | string => exact Run.computes_done _
  | boolean => exact Run.computes_done _
  | reference name => exact Run.computes_done name
  | array element ih =>
    exact ih.andThen fun text => computes_textOf hs (holds_of_assigned h .array) _
  | optional inner ih =>
    exact ih.andThen fun text => computes_textOf hs (holds_of_assigned h .optional) _

section
variable (hfiles : ∀ template ∈ c.templateFiles,
  ¬ "_rename".toList <:+ template.templatePath.toList)
include hfiles

/-- Under the name of a replacement there is the first rename of the identifier, or nothing. -/
theorem computes_rename (identifier : String) (owner : Names) :
    (Resolver.rename ⟨c, s.renderer⟩ identifier owner).Computes
      (Direct.rename c identifier owner) := by
  unfold Resolver.rename Direct.rename
  apply computes_ask
  cases hr : c.renames.find? (·.source == identifier) with
  | some rule =>
    obtain rfl : rule.source = identifier := by simpa using List.find?_some hr
    have hh := holds_of_assigned h (.replacement hr)
    have ⟨_, _, hf⟩ := hh
    rw [hf]
    exact computes_textOf hs hh _
  | none =>
    -- A template file could be registered under this name too, if its path ended like one.
    have hf : s.find? (Renderer.renameName identifier) = none := by
      apply find?_of_not_assigned h
      intro source ha
      rcases Sources.assigned_renameName ha with ⟨rule, hrule, -⟩ | ⟨template, ht, hp, -⟩
      · rw [hr] at hrule
        cases hrule
      · apply hfiles template ht
        rw [hp, Renderer.renameName, String.toList_append]
        exact List.suffix_append _ _
    rw [hf]
    exact Run.computes_done identifier

theorem computes_memberView (owner : Names) (m : Member) :
    (Resolver.memberView ⟨c, s.renderer⟩ owner m).Computes (Direct.memberView c owner m) :=
  (computes_rename h hs hfiles m.name owner).andThen fun _ =>
    (computes_typeText h hs m.type).andThen fun _ => Run.computes_done _

theorem computes_dtoView (dto : Dto) :
    (Resolver.dtoView ⟨c, s.renderer⟩ dto).Computes (Direct.dtoView c dto) :=
  (computes_rename h hs hfiles dto.name _).andThen fun _ =>
    (Run.Computes.each (computes_memberView h hs hfiles _) dto.fields).andThen fun _ =>
      Run.computes_done _

theorem computes_methodView (method : Method) :
    (Resolver.methodView ⟨c, s.renderer⟩ method).Computes (Direct.methodView c method) :=
  (computes_rename h hs hfiles method.name _).andThen fun _ =>
    (Run.Computes.each (computes_memberView h hs hfiles _) method.parameters).andThen fun _ =>
      Run.computes_done _

theorem computes_views (api : Api) :
    (Resolver.views ⟨c, s.renderer⟩ api).Computes (Direct.views c api) :=
  (Run.Computes.each (computes_dtoView h hs hfiles) api.dtos).andThen fun _ =>
    (Run.Computes.each (computes_methodView h hs hfiles) api.methods).andThen fun _ =>
      Run.computes_done _

end

/-! ### Files -/

/-- A template file and the template of its filenames are registered under its path. -/
theorem computes_targetFile {template : TemplateFile} (ht : template ∈ c.templateFiles)
    (data : Data) :
    (Resolver.targetFile ⟨c, s.renderer⟩ template.templatePath data).Computes
      (Direct.targetFile t directory template data) := by
  obtain ⟨source, hr⟩ := exists_readTemplate h ht
  unfold Direct.targetFile
  rw [hr]
  exact (computes_run hs (holds_of_assigned h (.filename ht)) data).andThen fun filename =>
    (computes_run hs (holds_of_assigned h (.content ht hr)) filename.data).andThen fun content =>
      Run.computes_done _

theorem computes_batch {template : TemplateFile} (ht : template ∈ c.templateFiles)
    (passes : List Data) (files : TargetFiles) :
    (Resolver.batch ⟨c, s.renderer⟩ template.templatePath files passes).Computes
      (Direct.batch t directory template files passes) := by
  induction passes generalizing files with
  | nil => exact Run.computes_done (files, [])
  | cons data more ih =>
    exact (computes_targetFile h hs ht data).andThen fun (file, _) =>
      (Run.computes_ofOutcome (files.insert_registered file)).andThen fun files =>
        (ih files).andThen fun _ => Run.computes_done _

theorem computes_addTemplateFiles {templates : List TemplateFile}
    (ht : ∀ template ∈ templates, template ∈ c.templateFiles) (views : Resolver.Views)
    (files : TargetFiles) :
    (Resolver.addTemplateFiles ⟨c, s.renderer⟩ views files templates).Computes
      (Direct.addTemplateFiles t directory views files templates) := by
  induction templates generalizing views files with
  | nil => exact Run.computes_done files
  | cons template more ih =>
    have hmore := fun other ho => ht other (List.mem_cons_of_mem template ho)
    exact (Run.computes_ofOutcome (Strategy.ofName_registered _)).andThen fun strategy =>
      (computes_batch h hs (ht template List.mem_cons_self) _ _).andThen fun (new, _) =>
        (Run.computes_ofOutcome (files.insertAll_registered new)).andThen fun _ =>
          ih hmore _ _

end

/-- A resolution that finds its templates by name has the outcome of one that takes them from where
the configuration has them.  It never misses a template, and it leaves nothing to the next one with
the same renderer. -/
theorem resolve_eq_direct {t : FileTree} {directory : Path} {c : Configuration} {s : TemplateSet}
    (h : ofConfiguration t directory c = .ok s)
    (hfiles : ∀ template ∈ c.templateFiles, ¬ "_rename".toList <:+ template.templatePath.toList)
    (hs : s.IsClosed) (api : Api) :
    (Resolver.resolve ⟨c, s.renderer⟩ api {}).outcome.mapError .rejected =
        Direct.resolve t directory c api ∧
      (∀ name reason,
        (Resolver.resolve ⟨c, s.renderer⟩ api {}).outcome ≠
          .error (.missingTemplate name reason)) ∧
      (Resolver.resolve ⟨c, s.renderer⟩ api {}).memory = {} := by
  have hall : (Resolver.resolve ⟨c, s.renderer⟩ api).Computes (Direct.resolve t directory c api) :=
    (computes_views h hs hfiles api).andThen fun views =>
      computes_addTemplateFiles h hs (fun _ ht => ht) views TargetFiles.empty
  exact ⟨hall.outcome, hall.registered, hall.memory⟩

/-- A configuration with a template file, wrappers around the type, and two renames of `id`. -/
def directSample : Configuration where
  integerType := "Int"
  stringType := "Text"
  booleanType := "Bool"
  arrayType := "List<\x7b\x7b value \x7d\x7d>"
  optionalType := "Option<\x7b\x7b value \x7d\x7d>"
  renames := [⟨"id", "\x7b\x7b snake_case \x7d\x7d_id"⟩, ⟨"id", "number"⟩]
  templateFiles := [⟨"dto.txt", "\x7b\x7b dto.name.original \x7d\x7d", "FOR_EACH_DTO"⟩]

/-- The files of that configuration: a line for each field. -/
def directFiles : FileTree :=
  .directory [("dto.txt", .file ("\x7b% for f in dto.fields %\x7d" ++
    "\x7b\x7b f.name \x7d\x7d: \x7b\x7b f.type \x7d\x7d" ++
    "\x7b% endfor %\x7d").toUTF8.toList)]

/-- A DTO with a field that is renamed, and whose type has both wrappers. -/
def directApi : Api := { dtos := [⟨"User", [⟨"id", .optional (.array .integer)⟩]⟩] }

/-- The resolution of the sample finds everything under its name. -/
theorem resolve_eq_direct_sample :
    ∃ s, ofConfiguration directFiles ⟨0, []⟩ directSample = .ok s ∧ s.IsClosed ∧
      ∃ files, (Resolver.resolve ⟨directSample, s.renderer⟩ directApi {}).outcome = .ok files ∧
        files.toList = [⟨"User", "user_id: Option<List<Int>>"⟩] := by
  have hbuilt : (ofConfiguration directFiles ⟨0, []⟩ directSample).toOption.map
      (fun s => decide s.IsClosed) = some true := by
    decide +kernel
  have hdirect : (Direct.resolve directFiles ⟨0, []⟩ directSample directApi).toOption.map
      TargetFiles.toList = some [⟨"User", "user_id: Option<List<Int>>"⟩] := by
    decide +kernel
  obtain ⟨s, h, hs⟩ := Option.map_eq_some_iff.1 hbuilt
  obtain ⟨files, hfiles, hlist⟩ := Option.map_eq_some_iff.1 hdirect
  rw [Outcome.toOption_eq_some] at h hfiles
  have hs := of_decide_eq_true hs
  obtain ⟨ho, -, -⟩ := resolve_eq_direct h (by decide +kernel) hs directApi
  rw [hfiles] at ho
  exact ⟨s, h, hs, files, Outcome.mapError_eq_ok.1 ho, hlist⟩

end TemplateSet
end ApiScribe
