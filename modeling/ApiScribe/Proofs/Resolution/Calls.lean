import Mathlib.Data.List.Count
import ApiScribe.Proofs.Registry
import ApiScribe.Proofs.Resolution.Merging

/-!
# What a run asks of its renderer

Which questions a run asks and which templates it renders is known beforehand from the model, the
template files and the registered names: `plannedCalls` lists the calls.  A run makes them one after
the other and either comes to the end, or stops right after the rendering that failed, or stops
between two calls because a strategy is unknown or two files have one name.  `Stops` says so of a
run; it is kept from step to step (`Follows.andThen`, `Follows.each`), so that it holds of a whole
resolution (`Resolver.follows_resolve`).

The number of renderings of a template file is known beforehand only if no rendering changes the
data it is given (`Renderer.KeepsData`).  A registry of functions does not
(`Renderer.ofRegistry`).

Main statement: `calls_of_resolve`.
-/

namespace ApiScribe

/-! ### The plan -/

/-- The names of the wrappers around a type, innermost first. -/
def TypeDescriptor.wrappers : TypeDescriptor → List String
  | .array element => element.wrappers ++ [Renderer.arrayName]
  | .optional inner => inner.wrappers ++ [Renderer.optionalName]
  | _ => []

section
variable (has : String → Bool)

/-- The question for the replacement of an identifier, and its rendering if there is one. -/
def renameCalls (identifier : String) : List Call :=
  [.has (Renderer.renameName identifier)] ++
    if has (Renderer.renameName identifier) then [.render (Renderer.renameName identifier)] else []

/-- The name of a member, then the wrappers of its type. -/
def memberCalls (m : Member) : List Call :=
  renameCalls has m.name ++ m.type.wrappers.map Call.render

/-- The name of an entity, then its members. -/
def entityCalls (name : String) (members : List Member) : List Call :=
  renameCalls has name ++ members.flatMap (memberCalls has)

/-- The DTOs of a model, then its methods. -/
def viewCalls (api : Api) : List Call :=
  api.dtos.flatMap (fun dto => entityCalls has dto.name dto.fields) ++
    api.methods.flatMap fun method => entityCalls has method.name method.parameters

end

/-- The filename and the text of so many files of a template file. -/
def passCalls (path : String) (passes : Nat) : List Call :=
  (List.replicate passes [.render (Renderer.filenameName path), .render path]).flatten

/-- The number of files of a template file: one for each entity, or one for all. -/
def passCount (api : Api) (template : TemplateFile) : Nat :=
  match Strategy.ofName template.strategy with
  | .ok s => if s.isForEach then (s.entityNames api).length else 1
  | .error _ => 0

/-- The files of all template files. -/
def fileCalls (api : Api) (templates : List TemplateFile) : List Call :=
  templates.flatMap fun template => passCalls template.templatePath (passCount api template)

/-- All calls of a run that succeeds. -/
def plannedCalls (has : String → Bool) (api : Api) (templates : List TemplateFile) : List Call :=
  viewCalls has api ++ fileCalls api templates

/-! ### Runs along a plan -/

variable {μ α β : Type}

/-- Rendering leaves the data as they are. -/
def Renderer.KeepsData (r : Renderer μ) : Prop :=
  ∀ name data memory rendered, (r.render name data memory).1 = .ok rendered → rendered.data = data

/-- The calls are made one after the other, none of them fails, and the renderer comes from the one
memory to the other. -/
inductive Answered (r : Renderer μ) : List Call → μ → μ → Prop
  | none {memory : μ} : Answered r [] memory memory
  | has {name : String} {calls : List Call} {memory after : μ}
      (h : Answered r calls memory after) : Answered r (.has name :: calls) memory after
  | render {name : String} {data : Data} {rendered : Rendered} {calls : List Call}
      {memory middle after : μ} (hr : r.render name data memory = (.ok rendered, middle))
      (h : Answered r calls middle after) : Answered r (.render name :: calls) memory after

theorem Answered.append {r : Renderer μ} {calls more : List Call} {memory middle after : μ}
    (h : Answered r calls memory middle) (h' : Answered r more middle after) :
    Answered r (calls ++ more) memory after := by
  induction h with
  | none => exact h'
  | has _ ih => exact .has (ih h')
  | render hr _ ih => exact .render hr (ih h')

/-- How a run along a plan ends: after all calls; right after a rendering that failed, with the
error of it; or for a reason of its own, before the next call. -/
inductive Stops (r : Renderer μ) (memory : μ) (plan : List Call)
    (refuses : List Call → ResolveError → Prop) : Ran μ α → Prop
  | done {a : α} {after : μ} (h : Answered r plan memory after) :
    Stops r memory plan refuses ⟨plan, .ok a, after⟩
  | failed {before rest : List Call} {name : String} {data : Data} {e : ResolveError}
      {middle after : μ} (hplan : plan = before ++ .render name :: rest)
      (h : Answered r before memory middle) (hr : r.render name data middle = (.error e, after)) :
    Stops r memory plan refuses ⟨before ++ [.render name], .error e, after⟩
  | refused {calls rest : List Call} {e : ResolveError} {after : μ} (hplan : plan = calls ++ rest)
      (h : Answered r calls memory after) (hr : refuses calls e) :
    Stops r memory plan refuses ⟨calls, .error e, after⟩

/-- The run goes along the plan, whatever the renderer remembers. -/
def Follows (r : Renderer μ) (plan : List Call) (refuses : List Call → ResolveError → Prop)
    (x : Run μ α) : Prop :=
  ∀ memory, Stops r memory plan refuses (x memory)

/-- No reason to end other than a rendering that fails. -/
def nothing (_ : List Call) (_ : ResolveError) : Prop := False

section
variable {r : Renderer μ} {plan : List Call} {refuses : List Call → ResolveError → Prop}

theorem Stops.calls_prefix {memory : μ} {ran : Ran μ α} (h : Stops r memory plan refuses ran) :
    ran.calls <+: plan := by
  cases h with
  | done => exact List.prefix_rfl
  | @failed before rest name _ _ _ _ hplan =>
    exact ⟨rest, by rw [hplan, List.append_assoc, List.singleton_append]⟩
  | refused hplan => exact ⟨_, hplan.symm⟩

theorem Stops.calls_of_ok {memory : μ} {ran : Ran μ α} (h : Stops r memory plan refuses ran)
    {a : α} (ha : ran.outcome = .ok a) : ran.calls = plan := by
  cases h with
  | done => rfl
  | failed | refused => cases ha

theorem Follows.mono {refuses' : List Call → ResolveError → Prop} {x : Run μ α}
    (h : Follows r plan refuses x) (hmono : ∀ calls e, refuses calls e → refuses' calls e) :
    Follows r plan refuses' x := by
  intro memory
  cases hx : x memory with
  | mk calls outcome after =>
    have hstops := hx ▸ h memory
    cases hstops with
    | done h => exact .done h
    | failed hplan h hr => exact .failed hplan h hr
    | refused hplan h hr => exact .refused hplan h (hmono _ _ hr)

theorem follows_done (a : α) : Follows r [] refuses (Run.done a) := fun _ => .done .none

/-- A step that makes no call. -/
theorem follows_ofOutcome {x : Except ResolveError α} (h : ∀ e, x = .error e → refuses [] e) :
    Follows r [] refuses (Run.ofOutcome x) := by
  intro memory
  cases x with
  | ok a => exact .done .none
  | error e => exact .refused rfl .none (h e rfl)

/-- The second step of a run goes on with the plan where the first one ends. -/
theorem Follows.andThen {x : Run μ α} {f : α → Run μ β} {more : List Call}
    (hx : Follows r plan refuses x)
    (hf : ∀ a, x.CanGive a → Follows r more (fun calls e => refuses (plan ++ calls) e) (f a)) :
    Follows r (plan ++ more) refuses (x.andThen f) := by
  intro memory
  have hstops := hx memory
  unfold Run.andThen
  cases hran : x memory with
  | mk calls outcome middle =>
    rw [hran] at hstops
    cases hstops with
    | @done a _ hanswered =>
      -- the second step starts, and what it leaves of its plan is what is left of both
      have hnext := hf a ⟨memory, by rw [hran]⟩ middle
      dsimp only
      cases hrest : f a middle with
      | mk calls' outcome' after =>
        rw [hrest] at hnext
        cases hnext with
        | done h => exact .done (hanswered.append h)
        | @failed before rest name _ _ _ _ hplan h hr =>
          have hplan' : plan ++ more = plan ++ before ++ .render name :: rest := by
            rw [hplan, List.append_assoc]
          rw [← List.append_assoc]
          exact .failed hplan' (hanswered.append h) hr
        | @refused _ rest _ _ hplan h hr =>
          have hplan' : plan ++ more = plan ++ calls' ++ rest := by
            rw [hplan, List.append_assoc]
          exact .refused hplan' (hanswered.append h) hr
    | @failed before rest name _ _ _ _ hplan h hr =>
      have hplan' : plan ++ more = before ++ .render name :: (rest ++ more) := by
        rw [hplan, List.append_assoc, List.cons_append]
      exact .failed hplan' h hr
    | @refused _ rest _ _ hplan h hr =>
      have hplan' : plan ++ more = calls ++ (rest ++ more) := by
        rw [hplan, List.append_assoc]
      exact .refused hplan' h hr

/-- A step that goes along a plan, and what is made of its value without a call. -/
theorem Follows.map {x : Run μ α} (hx : Follows r plan refuses x) (f : α → β) :
    Follows r plan refuses (x.andThen fun a => .done (f a)) := by
  have h : Follows r (plan ++ []) refuses (x.andThen fun a => .done (f a)) :=
    hx.andThen fun a _ => follows_done (f a)
  rwa [List.append_nil] at h

/-- A step for each item goes along the plans of the items, one after the other. -/
theorem Follows.each {f : α → Run μ β} {plans : α → List Call}
    (hf : ∀ a, Follows r (plans a) nothing (f a)) (as : List α) :
    Follows r (as.flatMap plans) nothing (Run.each f as) := by
  induction as with
  | nil => exact follows_done []
  | cons a as ih =>
    rw [List.flatMap_cons]
    exact (hf a).andThen fun b _ => ih.map fun bs => b :: bs

theorem follows_ask (name : String) : Follows r [.has name] nothing (r.ask name) :=
  fun _ => .done (.has .none)

theorem follows_run (name : String) (data : Data) :
    Follows r [.render name] nothing (r.run name data) := by
  intro memory
  unfold Renderer.run
  cases hr : r.render name data memory with
  | mk outcome after =>
    cases outcome with
    | ok rendered => exact .done (.render hr .none)
    | error e =>
      have hplan : [Call.render name] = [] ++ .render name :: [] := rfl
      exact .failed hplan .none hr

end

namespace Resolver

variable (r : Resolver μ)

/-! ### Views -/

theorem follows_textOf (name : String) (data : Data) :
    Follows r.renderer [.render name] nothing (r.textOf name data) :=
  (follows_run name data).map _

/-- The wrappers of a type are rendered from the inside out. -/
theorem follows_typeText (t : TypeDescriptor) :
    Follows r.renderer (t.wrappers.map Call.render) nothing (r.typeText t) := by
  induction t with
  | integer | string | boolean | reference => exact follows_done _
  | array element ih =>
    rw [TypeDescriptor.wrappers, List.map_append]
    exact ih.andThen fun _ _ => follows_textOf r _ _
  | optional inner ih =>
    rw [TypeDescriptor.wrappers, List.map_append]
    exact ih.andThen fun _ _ => follows_textOf r _ _

theorem follows_rename (identifier : String) (owner : Names) :
    Follows r.renderer (renameCalls r.renderer.has identifier) nothing
      (r.rename identifier owner) := by
  unfold rename renameCalls
  apply (follows_ask (Renderer.renameName identifier)).andThen
  rintro known ⟨memory, hknown⟩
  obtain rfl : r.renderer.has (Renderer.renameName identifier) = known := Except.ok.inj hknown
  -- the run asks for the text under the same condition as the plan has it
  split
  · exact follows_textOf r _ _
  · exact follows_done _

theorem follows_memberView (owner : Names) (m : Member) :
    Follows r.renderer (memberCalls r.renderer.has m) nothing (r.memberView owner m) :=
  (follows_rename r m.name owner).andThen fun _ _ => (follows_typeText r m.type).map _

theorem follows_dtoView (dto : Dto) :
    Follows r.renderer (entityCalls r.renderer.has dto.name dto.fields) nothing (r.dtoView dto) :=
  (follows_rename r dto.name _).andThen fun _ _ =>
    (Follows.each (follows_memberView r _) dto.fields).map _

theorem follows_methodView (method : Method) :
    Follows r.renderer (entityCalls r.renderer.has method.name method.parameters) nothing
      (r.methodView method) :=
  (follows_rename r method.name _).andThen fun _ _ =>
    (Follows.each (follows_memberView r _) method.parameters).map _

theorem follows_views (api : Api) :
    Follows r.renderer (viewCalls r.renderer.has api) nothing (r.views api) :=
  (Follows.each (follows_dtoView r) api.dtos).andThen fun _ _ =>
    (Follows.each (follows_methodView r) api.methods).map _

theorem follows_targetFile (path : String) (data : Data) :
    Follows r.renderer [.render (Renderer.filenameName path), .render path] nothing
      (r.targetFile path data) :=
  (follows_run (Renderer.filenameName path) data).andThen fun _ _ => (follows_run path _).map _

end Resolver

/-! ### Files -/

theorem Strategy.eq_of_ofName_error {value : String} {e : ResolveError}
    (h : Strategy.ofName value = .error e) :
    e = .unknownStrategy value ∧ ∀ s : Strategy, value ≠ s.name := by
  refine ⟨?_, ?_⟩
  · unfold Strategy.ofName at h
    split at h
    · cases h
    · cases h
      rfl
  · intro s hs
    rw [Strategy.ofName_eq_ok.2 hs] at h
    cases h

/-- Why the files of a template file end between two calls: so far none of them failed, and the last
filename has been there. -/
def RefusesBatch (path : String) (passes : Nat) (calls : List Call) (e : ResolveError) : Prop :=
  ∃ k < passes, calls = passCalls path (k + 1) ∧ ∃ name, e = .duplicateFilename name

/-- Why a run over template files ends between two calls: the next one has a strategy that is not
known, or a filename comes twice among those of the last one, or the last one has filenames of those
before it. -/
inductive Refuses (api : Api) (templates : List TemplateFile) : List Call → ResolveError → Prop
  | strategy {before after : List TemplateFile} {template : TemplateFile}
      (htemplates : templates = before ++ template :: after)
      (hs : ∀ s : Strategy, template.strategy ≠ s.name) :
    Refuses api templates (fileCalls api before) (.unknownStrategy template.strategy)
  | within {before after : List TemplateFile} {template : TemplateFile} {calls : List Call}
      {e : ResolveError} (htemplates : templates = before ++ template :: after)
      (h : RefusesBatch template.templatePath (passCount api template) calls e) :
    Refuses api templates (fileCalls api before ++ calls) e
  | across {before after : List TemplateFile} {template : TemplateFile} {names : List String}
      (htemplates : templates = before ++ template :: after) :
    Refuses api templates (fileCalls api (before ++ [template])) (.duplicateFilenames names)

theorem Refuses.cons {api : Api} {templates : List TemplateFile} {calls : List Call}
    {e : ResolveError} (h : Refuses api templates calls e) (template : TemplateFile) :
    Refuses api (template :: templates)
      (passCalls template.templatePath (passCount api template) ++ calls) e := by
  have hcons : ∀ before, fileCalls api (template :: before) =
      passCalls template.templatePath (passCount api template) ++ fileCalls api before :=
    fun _ => List.flatMap_cons
  cases h with
  | @strategy before _ _ htemplates hs =>
    rw [← hcons]
    exact .strategy (congrArg (template :: ·) htemplates) hs
  | @within before _ _ _ _ htemplates h =>
    rw [← List.append_assoc, ← hcons]
    exact .within (congrArg (template :: ·) htemplates) h
  | @across before _ last _ htemplates =>
    rw [← hcons, ← List.cons_append]
    exact .across (congrArg (template :: ·) htemplates)

namespace Resolver

variable {r : Resolver μ}

theorem data_of_targetFile (hkeeps : r.renderer.KeepsData) {path : String}
    {data after : Data} {file : TargetFile} (h : (r.targetFile path data).CanGive (file, after)) :
    after = data := by
  obtain ⟨filename, ⟨_, hfilename⟩, h⟩ := h.of_andThen
  obtain ⟨content, ⟨_, hcontent⟩, h⟩ := h.of_andThen
  cases h.of_done
  exact (hkeeps _ _ _ _ hcontent).trans (hkeeps _ _ _ _ hfilename)

theorem data_of_batch (hkeeps : r.renderer.KeepsData) {path : String}
    {files files' : TargetFiles} {ds after : List Data}
    (h : (r.batch path files ds).CanGive (files', after)) : after = ds := by
  induction ds generalizing files after with
  | nil =>
    cases h.of_done
    rfl
  | cons data ds ih =>
    rw [batch_cons] at h
    obtain ⟨⟨file, data'⟩, hfile, h⟩ := h.of_andThen
    obtain ⟨next, -, h⟩ := h.of_andThen
    obtain ⟨⟨files'', ds'⟩, hbatch, h⟩ := h.of_andThen
    cases h.of_done
    rw [data_of_targetFile hkeeps hfile, ih hbatch]

theorem follows_batch (path : String) (files : TargetFiles) (ds : List Data) :
    Follows r.renderer (passCalls path ds.length) (RefusesBatch path ds.length)
      (r.batch path files ds) := by
  induction ds generalizing files with
  | nil => exact follows_done _
  | cons data ds ih =>
    rw [batch_cons]
    have hfile := follows_targetFile r path data
    apply (hfile.mono fun _ _ => False.elim).andThen
    rintro ⟨file, data'⟩ -
    have hinsert : ∀ e, files.insert file = .error e →
        RefusesBatch path (ds.length + 1) (passCalls path 1) e := by
      intro e he
      obtain ⟨-, rfl⟩ := TargetFiles.insert_eq_error.1 he
      exact ⟨0, Nat.succ_pos _, rfl, file.filename, rfl⟩
    apply (follows_ofOutcome hinsert).andThen
    intro next _
    refine Follows.map ((ih next).mono ?_) _
    rintro calls e ⟨k, hk, rfl, hname⟩
    exact ⟨k + 1, Nat.succ_lt_succ hk, rfl, hname⟩

theorem length_passes {api : Api} {views : Views} {template : TemplateFile} {s : Strategy}
    (hs : Strategy.ofName template.strategy = .ok s)
    (hdtos : views.dtos.length = api.dtos.length)
    (hmethods : views.methods.length = api.methods.length) :
    (passes s views).length = passCount api template := by
  unfold passCount
  rw [hs, passes_eq_renderings]
  cases s <;> simp [Strategy.renderings, Strategy.isForEach, Strategy.entityNames, hdtos, hmethods]

/-- A run over template files, for views of the entities of the model. -/
theorem follows_addTemplateFiles (hkeeps : r.renderer.KeepsData) {api : Api} {views : Views}
    (hdtos : views.dtos.length = api.dtos.length)
    (hmethods : views.methods.length = api.methods.length) (templates : List TemplateFile)
    (files : TargetFiles) :
    Follows r.renderer (fileCalls api templates) (Refuses api templates)
      (r.addTemplateFiles views files templates) := by
  induction templates generalizing files with
  | nil => exact follows_done files
  | cons template templates ih =>
    rw [addTemplateFiles_cons]
    have hstrategy : ∀ e, Strategy.ofName template.strategy = .error e →
        Refuses api (template :: templates) [] e := by
      intro e he
      obtain ⟨rfl, hunknown⟩ := Strategy.eq_of_ofName_error he
      exact .strategy (List.nil_append _).symm hunknown
    apply (follows_ofOutcome hstrategy).andThen
    rintro s ⟨_, hs⟩
    have hlength := length_passes hs hdtos hmethods
    have hbatch := follows_batch (r := r) template.templatePath .empty (passes s views)
    rw [hlength] at hbatch
    have hfirst : ∀ calls e, RefusesBatch template.templatePath (passCount api template) calls e →
        Refuses api (template :: templates) calls e :=
      fun _ _ h => .within (List.nil_append _).symm h
    apply (hbatch.mono hfirst).andThen
    rintro ⟨new, after⟩ hnew
    -- the data are kept, so the next template file has the same views, and as many of them
    obtain rfl := data_of_batch hkeeps hnew
    have hmerge : ∀ e, files.insertAll new = .error e →
        Refuses api (template :: templates) (fileCalls api [template]) e := by
      intro e he
      obtain ⟨-, rfl⟩ := TargetFiles.insertAll_eq_error.1 he
      exact .across (List.nil_append _).symm
    apply (follows_ofOutcome hmerge).andThen
    intro merged _
    rw [viewsAfter_passes]
    exact (ih merged).mono fun _ _ h => h.cons template

/-! ### Whole runs -/

/-- A run makes the calls of the views and then those of the files. -/
theorem follows_resolve (hkeeps : r.renderer.KeepsData) (api : Api) :
    Follows r.renderer (plannedCalls r.renderer.has api r.configuration.templateFiles)
      (fun calls e => ∃ rest, calls = viewCalls r.renderer.has api ++ rest ∧
        Refuses api r.configuration.templateFiles rest e)
      (r.resolve api) := by
  apply ((follows_views r api).mono fun _ _ => False.elim).andThen
  intro views hviews
  obtain ⟨dtos, methods, rfl, hdtos, hmethods⟩ := canGive_of_views hviews
  have hdtos' : (dtos.map DtoView.toData).length = api.dtos.length := by
    rw [List.length_map, hdtos.length_eq]
  have hmethods' : (methods.map MethodView.toData).length = api.methods.length := by
    rw [List.length_map, hmethods.length_eq]
  refine (follows_addTemplateFiles hkeeps hdtos' hmethods' _ .empty).mono ?_
  intro calls e h
  exact ⟨calls, rfl, h⟩

end Resolver

/-! ### Renderings of wrappers -/

theorem count_flatMap_congr {f : α → List Call} {g : α → List String} {call : Call}
    {name : String} (h : ∀ a, (f a).count call = (g a).count name) (as : List α) :
    (as.flatMap f).count call = (as.flatMap g).count name := by
  induction as with
  | nil => rfl
  | cons a as ih =>
    rw [List.flatMap_cons, List.flatMap_cons, List.count_append, List.count_append, h, ih]

section
variable {wrapper : String} (hwrapper : wrapper ∈ Sources.reserved)
include hwrapper

theorem count_renameCalls (has : String → Bool) (identifier : String) :
    (renameCalls has identifier).count (.render wrapper) = 0 := by
  rw [List.count_eq_zero]
  intro h
  -- the only rendering is that of the replacement, whose name has a suffix that no wrapper has
  have hname : Call.render wrapper = .render (Renderer.renameName identifier) := by
    unfold renameCalls at h
    split at h
    · simpa using h
    · simp at h
  rw [Call.render.inj hname] at hwrapper
  exact Renderer.renameName_not_reserved identifier hwrapper

theorem count_memberCalls (has : String → Bool) (m : Member) :
    (memberCalls has m).count (.render wrapper) = m.type.wrappers.count wrapper := by
  have hrender : Function.Injective Call.render := fun _ _ => Call.render.inj
  rw [memberCalls, List.count_append, count_renameCalls hwrapper, Nat.zero_add,
    List.count_map_of_injective _ _ hrender]

theorem count_entityCalls (has : String → Bool) (name : String) (members : List Member) :
    (entityCalls has name members).count (.render wrapper) =
      (members.flatMap fun m => m.type.wrappers).count wrapper := by
  rw [entityCalls, List.count_append, count_renameCalls hwrapper, Nat.zero_add]
  exact count_flatMap_congr (fun m => count_memberCalls hwrapper has m) members

/-- Building the views renders a wrapper as often as it stands in the types of the model. -/
theorem count_viewCalls (has : String → Bool) (api : Api) :
    (viewCalls has api).count (.render wrapper) =
      (api.members.flatMap fun m => m.type.wrappers).count wrapper := by
  rw [viewCalls, Api.members, List.flatMap_append, List.count_append, List.count_append,
    List.flatMap_assoc, List.flatMap_assoc]
  have hdtos := count_flatMap_congr (fun dto => count_entityCalls hwrapper has dto.name dto.fields)
    api.dtos
  have hmethods := count_flatMap_congr
    (fun method => count_entityCalls hwrapper has method.name method.parameters) api.methods
  rw [hdtos, hmethods]

theorem count_fileCalls (api : Api) {templates : List TemplateFile}
    (hpaths : ∀ template ∈ templates, template.templatePath ≠ wrapper) :
    (fileCalls api templates).count (.render wrapper) = 0 := by
  rw [List.count_eq_zero]
  intro h
  obtain ⟨template, htemplate, h⟩ := List.mem_flatMap.1 h
  obtain ⟨calls, hcalls, h⟩ := List.mem_flatten.1 h
  rw [List.eq_of_mem_replicate hcalls] at h
  rcases List.mem_pair.1 h with h | h
  · rw [Call.render.inj h] at hwrapper
    exact Renderer.filenameName_not_reserved _ hwrapper
  · exact hpaths template htemplate (Call.render.inj h).symm

end

/-! ### Registries of functions -/

/-- Functions that make texts of data, under names. -/
def Registry (μ : Type) : Type :=
  String → Option (Data → μ → Except ResolveError String × μ)

/-- The renderer of a registry.  The data stay as they are; a name that is not registered cannot be
rendered. -/
def Renderer.ofRegistry (templates : Registry μ) (reason : String) : Renderer μ where
  has := fun name => (templates name).isSome
  render := fun name data memory =>
    match templates name with
    | none => (.error (.missingTemplate name reason), memory)
    | some template =>
      let (text, after) := template data memory
      (text.map fun text => ⟨text, data⟩, after)

theorem Renderer.keepsData_ofRegistry (templates : Registry μ) (reason : String) :
    (ofRegistry templates reason).KeepsData := by
  intro name data memory rendered h
  unfold ofRegistry at h
  dsimp only at h
  split at h
  · cases h
  · obtain ⟨text, -, rfl⟩ := Outcome.map_eq_ok.1 h
    rfl

/-- The resolver for a configuration and a registry. -/
def Resolver.ofRegistry (c : Configuration) (templates : Registry μ) (reason : String) :
    Resolver μ :=
  ⟨c, .ofRegistry templates reason⟩

/-- What a run asks of a renderer, for every registry.

The calls are the first ones of those planned, and all of them if the run succeeds.  A run that
fails ends with the rendering that failed, or without a further call if a strategy is unknown or
filenames collide (`Stops`, `Refuses`).  A run that succeeds renders each wrapper once for each of
its places in the types of the model, whatever the number of template files; only a template file of
that very path is a further rendering. -/
theorem calls_of_resolve (c : Configuration) (templates : Registry μ) (reason : String) (api : Api)
    (memory : μ) :
    let r := Resolver.ofRegistry c templates reason
    let ran := r.resolve api memory
    let has := fun name => (templates name).isSome
    ran.calls <+: plannedCalls has api c.templateFiles ∧
    Stops r.renderer memory (plannedCalls has api c.templateFiles)
      (fun calls e => ∃ rest, calls = viewCalls has api ++ rest ∧
        Refuses api c.templateFiles rest e) ran ∧
    ∀ files, ran.outcome = .ok files →
      ran.calls = plannedCalls has api c.templateFiles ∧
      ∀ wrapper ∈ Sources.reserved,
        (∀ template ∈ c.templateFiles, template.templatePath ≠ wrapper) →
        ran.calls.count (.render wrapper) =
          (api.members.flatMap fun m => m.type.wrappers).count wrapper := by
  intro r ran has
  have hkeeps : r.renderer.KeepsData := Renderer.keepsData_ofRegistry templates reason
  have hstops := Resolver.follows_resolve hkeeps api memory
  refine ⟨hstops.calls_prefix, hstops, ?_⟩
  intro files hfiles
  have hcalls : ran.calls = plannedCalls has api c.templateFiles := hstops.calls_of_ok hfiles
  refine ⟨hcalls, ?_⟩
  intro wrapper hwrapper hpaths
  rw [hcalls, plannedCalls, List.count_append, count_fileCalls hwrapper api hpaths, Nat.add_zero,
    count_viewCalls hwrapper]

/-- A resolver for two template files, with all templates that they and the wrappers need. -/
def twoTemplates : Resolver Unit :=
  .ofRegistry
    ⟨"I", "S", "L", "A", "O", [], [⟨"t", "x", "FOR_ALL_DTOS"⟩, ⟨"u", "y", "FOR_EACH_DTO"⟩]⟩
    (fun name =>
      if name ∈ ["array", "optional", "t", "t_name", "u", "u_name"] then
        some fun _ memory => (.ok name, memory)
      else none)
    "not registered"

/-- Both wrappers of the only field are rendered once, although there are two template files. -/
theorem calls_of_resolve_twoTemplates :
    let ran := twoTemplates.resolve ⟨[⟨"A", [⟨"a", .optional (.array .integer)⟩]⟩], []⟩ ()
    (∃ files, ran.outcome = .ok files) ∧
      ran.calls.count (.render "array") = 1 ∧ ran.calls.count (.render "optional") = 1 := by
  intro ran
  have hok : ∃ files, ran.outcome = .ok files := ⟨_, rfl⟩
  refine ⟨hok, ?_⟩
  obtain ⟨files, hfiles⟩ := hok
  obtain ⟨-, -, hends⟩ := calls_of_resolve twoTemplates.configuration _ "not registered"
    ⟨[⟨"A", [⟨"a", .optional (.array .integer)⟩]⟩], []⟩ ()
  obtain ⟨-, hcount⟩ := hends files hfiles
  exact ⟨hcount "array" (by decide) (by decide), hcount "optional" (by decide) (by decide)⟩

end ApiScribe
