import Mathlib.Data.List.Forall2
import Mathlib.Data.List.Induction
import ApiScribe.Proofs.Resolution.Files
import ApiScribe.Proofs.Resolution.References

/-!
# Colliding filenames

A template file that is rendered once for each entity makes one file after the other and stops at
the first one whose name is there already (`Resolver.batch_names`).  The check of a model counts
the names of its entities.  If the filenames are a function of those names and no two names have the
same filename, then both find the same: `Resolver.resolve_forEach_iff` says that the run succeeds
exactly if the check reports no repeated entity, and that it fails for the first entity whose name
has been there before.

The renderer may have a memory; what is asked of it is asked whatever it remembers.
-/

namespace ApiScribe

/-! ### The first repetition -/

/-- The name is the first one of the list that has been there before. -/
def FirstRepeated (names : List String) (name : String) : Prop :=
  ∃ before after, names = before ++ name :: after ∧ before.Nodup ∧ name ∈ before

theorem FirstRepeated.not_nodup {names : List String} {name : String}
    (h : FirstRepeated names name) : ¬ names.Nodup := by
  obtain ⟨before, after, rfl, -, hmem⟩ := h
  intro hnodup
  exact (List.nodup_append.1 hnodup).2.2 name hmem name List.mem_cons_self rfl

/-- A list without repetition goes on until the first one. -/
theorem nodup_or_firstRepeated (names : List String) :
    names.Nodup ∨ ∃ name, FirstRepeated names name := by
  induction names using List.reverseRecOn with
  | nil => exact .inl List.nodup_nil
  | append_singleton names last ih =>
    rcases ih with hnodup | ⟨name, before, after, rfl, hbefore, hmem⟩
    · by_cases hlast : last ∈ names
      · exact .inr ⟨last, names, [], rfl, hnodup, hlast⟩
      · exact .inl (List.nodup_append.2 ⟨hnodup, List.nodup_singleton last, by
          rintro name hname _ hlast' rfl
          exact hlast (List.mem_singleton.1 hlast' ▸ hname)⟩)
    · refine .inr ⟨name, before, after ++ [last], ?_, hbefore, hmem⟩
      rw [List.append_assoc, List.cons_append]

theorem eq_of_nodup_append {before more after after' : List String} {name name' : String}
    (hmem : name ∈ before) (h : name :: after = more ++ name' :: after')
    (hnodup : (before ++ more).Nodup) : name = name' := by
  cases more with
  | nil => exact (List.cons.inj h).1
  | cons first more =>
    obtain rfl := (List.cons.inj h).1
    exact absurd rfl ((List.nodup_append.1 hnodup).2.2 name hmem name List.mem_cons_self)

theorem FirstRepeated.unique {names : List String} {name name' : String}
    (h : FirstRepeated names name) (h' : FirstRepeated names name') : name = name' := by
  obtain ⟨before, after, rfl, hbefore, hmem⟩ := h
  obtain ⟨before', after', heq, hbefore', hmem'⟩ := h'
  -- one of the two has at least as much before it
  rcases List.append_eq_append_iff.1 heq with ⟨more, rfl, hmore⟩ | ⟨more, rfl, hmore⟩
  · exact eq_of_nodup_append hmem hmore hbefore'
  · exact (eq_of_nodup_append hmem' hmore hbefore).symm

theorem firstRepeated_map {f : String → String} (hf : Function.Injective f) {names : List String}
    {s : String} :
    FirstRepeated (names.map f) s ↔ ∃ name, FirstRepeated names name ∧ s = f name := by
  have hmap : ∀ name, FirstRepeated names name → FirstRepeated (names.map f) (f name) := by
    rintro name ⟨before, after, rfl, hbefore, hmem⟩
    refine ⟨before.map f, after.map f, ?_, hbefore.map hf, List.mem_map_of_mem hmem⟩
    rw [List.map_append, List.map_cons]
  constructor
  · intro h
    rcases nodup_or_firstRepeated names with hnodup | ⟨name, hname⟩
    · exact absurd (hnodup.map hf) h.not_nodup
    · exact ⟨name, hname, h.unique (hmap name hname)⟩
  · rintro ⟨name, hname, rfl⟩
    exact hmap name hname

namespace Run

variable {μ α β : Type} {x : Run μ α} {memory : μ}

theorem outcome_andThen_of_ok {a : α} (h : (x memory).outcome = .ok a) (f : α → Run μ β) :
    (x.andThen f memory).outcome = (f a (x memory).memory).outcome := by
  unfold andThen
  cases hx : x memory with
  | mk calls outcome after =>
    rw [hx] at h
    cases h
    rfl

theorem outcome_andThen_of_error {e : ResolveError} (h : (x memory).outcome = .error e)
    (f : α → Run μ β) : (x.andThen f memory).outcome = .error e := by
  unfold andThen
  cases hx : x memory with
  | mk calls outcome after =>
    rw [hx] at h
    cases h
    rfl

theorem outcome_ofOutcome_ok (a : α) (f : α → Run μ β) (memory : μ) :
    ((ofOutcome (.ok a)).andThen f memory).outcome = (f a memory).outcome := rfl

theorem outcome_ofOutcome_error (e : ResolveError) (f : α → Run μ β) (memory : μ) :
    ((ofOutcome (.error e)).andThen f memory).outcome = .error e := rfl

/-- A step that only makes something of the value changes nothing else. -/
theorem outcome_andThen_done (x : Run μ α) (f : α → β) (memory : μ) :
    (x.andThen (fun a => done (f a)) memory).outcome = (x memory).outcome.map f := by
  unfold andThen
  cases x memory with
  | mk calls outcome after => cases outcome <;> rfl

end Run

namespace Resolver

variable {μ : Type} {r : Resolver μ} {path : String}

/-- Whatever the renderer remembers, the data are rendered to a file of the name: the rendering of
the filename gives that name, and the one of the text, which comes after it, succeeds. -/
structure NamesFile (r : Resolver μ) (path : String) (data : Data) (name : String) : Prop where
  filename : ∀ memory, ∃ rendered,
    (r.renderer.render (Renderer.filenameName path) data memory).1 = .ok rendered ∧
      rendered.text = name
  content : ∀ memory rendered after,
    r.renderer.render (Renderer.filenameName path) data memory = (.ok rendered, after) →
      ∃ content, (r.renderer.render path rendered.data after).1 = .ok content

theorem NamesFile.outcome_targetFile {data : Data} {name : String}
    (h : r.NamesFile path data name) (memory : μ) :
    ∃ file data', (r.targetFile path data memory).outcome = .ok (file, data') ∧
      file.filename = name := by
  obtain ⟨rendered, hrendered, rfl⟩ := h.filename memory
  obtain ⟨content, hcontent⟩ := h.content memory rendered
    (r.renderer.render (Renderer.filenameName path) data memory).2 (Prod.ext hrendered rfl)
  have hname : (r.renderer.run (Renderer.filenameName path) data memory).outcome = .ok rendered :=
    hrendered
  refine ⟨⟨rendered.text, content.text⟩, content.data, ?_, rfl⟩
  show (Run.andThen _ _ memory).outcome = _
  rw [Run.outcome_andThen_of_ok hname]
  exact Run.outcome_andThen_of_ok hcontent _

section
variable {files : TargetFiles} {data data' : Data} {memory : μ} {file : TargetFile}
  (ds : List Data) (hfile : (r.targetFile path data memory).outcome = .ok (file, data'))
include hfile

/-- A batch ends at a file whose name is there. -/
theorem outcome_batch_of_insert_error {e : ResolveError} (h : files.insert file = .error e) :
    (r.batch path files (data :: ds) memory).outcome = .error e := by
  rw [batch]
  show (Run.andThen _ _ memory).outcome = _
  rw [Run.outcome_andThen_of_ok hfile]
  show (Run.andThen (Run.ofOutcome (files.insert file)) _ _).outcome = _
  rw [h, Run.outcome_ofOutcome_error]

/-- Otherwise it goes on with the file among those it has, and gives its data back. -/
theorem outcome_batch_of_insert_ok {next : TargetFiles} (h : files.insert file = .ok next) :
    ∃ memory', (r.batch path files (data :: ds) memory).outcome =
      (r.batch path next ds memory').outcome.map fun (files', more) => (files', data' :: more) := by
  rw [batch]
  show ∃ memory', (Run.andThen _ _ memory).outcome = _
  rw [Run.outcome_andThen_of_ok hfile]
  show ∃ memory', (Run.andThen (Run.ofOutcome (files.insert file)) _ _).outcome = _
  rw [h]
  exact ⟨(r.targetFile path data memory).memory, Run.outcome_andThen_done _ _ _⟩

end

/-- The files of a batch are added until the first one whose name is there. -/
theorem batch_names {ds : List Data} {names : List String}
    (h : List.Forall₂ (r.NamesFile path) ds names) (files : TargetFiles) (memory : μ) :
    ((files.filenames ++ names).Nodup ∧
      ∃ files' after, (r.batch path files ds memory).outcome = .ok (files', after) ∧
        files'.filenames = files.filenames ++ names) ∨
    ∃ name, FirstRepeated (files.filenames ++ names) name ∧
      (r.batch path files ds memory).outcome = .error (.duplicateFilename name) := by
  induction h generalizing files memory with
  | nil =>
    rw [List.append_nil]
    exact .inl ⟨files.distinct, files, [], rfl, rfl⟩
  | @cons data name ds names hdata _ ih =>
    obtain ⟨file, data', hfile, rfl⟩ := hdata.outcome_targetFile memory
    cases hinsert : files.insert file with
    | error e =>
      obtain ⟨hmem, rfl⟩ := TargetFiles.insert_eq_error.1 hinsert
      exact .inr ⟨file.filename, ⟨files.filenames, names, rfl, files.distinct, hmem⟩,
        outcome_batch_of_insert_error ds hfile hinsert⟩
    | ok next =>
      obtain ⟨memory', hbatch⟩ := outcome_batch_of_insert_ok ds hfile hinsert
      rw [hbatch, ← TargetFiles.filenames_of_insert hinsert]
      rcases ih next memory' with ⟨hnodup, files', after, hrest, hfiles'⟩ | ⟨name, hname, hrest⟩
      · rw [hrest]
        exact .inl ⟨hnodup, files', data' :: after, rfl, hfiles'⟩
      · rw [hrest]
        exact .inr ⟨name, hname, rfl⟩

/-! ### Names of entities -/

theorem Called.eq_of_not_has {name s : String} (h : r.Called name s)
    (hno : r.renderer.has (Renderer.renameName name) = false) : s = name := by
  unfold Called at h
  rwa [hno, if_neg Bool.false_ne_true] at h

end Resolver

namespace Strategy

/-- The names of the entities that a strategy is about, in the order of the model. -/
def entityNames (api : Api) : Strategy → List String
  | .allDtos | .eachDto => api.dtos.map Dto.name
  | .allMethods | .eachMethod => api.methods.map Method.name

/-- The error for a name that several of the entities have. -/
def repetition (name : String) : Strategy → Defect
  | .allDtos | .eachDto => .repeatedDto name
  | .allMethods | .eachMethod => .repeatedMethod name

variable {api : Api} (s : Strategy)

theorem repetition_mem_defects {name : String} :
    s.repetition name ∈ api.defects ↔ 1 < (s.entityNames api).count name := by
  have hdto : Defect.repeatedDto name ∈ api.defects ↔ 1 < (api.dtos.map Dto.name).count name := by
    rw [Api.mem_defects]
    exact ⟨fun h => by cases h; assumption, .repeatedDto⟩
  have hmethod : Defect.repeatedMethod name ∈ api.defects ↔
      1 < (api.methods.map Method.name).count name := by
    rw [Api.mem_defects]
    exact ⟨fun h => by cases h; assumption, .repeatedMethod⟩
  cases s with
  | allDtos | eachDto => exact hdto
  | allMethods | eachMethod => exact hmethod

theorem eq_of_message_repetition {defect : Defect} {name : String}
    (h : defect.message = (s.repetition name).message) : defect = s.repetition name := by
  cases s with
  | allDtos | eachDto => exact Defect.eq_of_message_repeatedDto h
  | allMethods | eachMethod => exact Defect.eq_of_message_repeatedMethod h

/-- Names tell the entities apart exactly if the check reports none as repeated. -/
theorem nodup_entityNames_iff : (s.entityNames api).Nodup ↔
    ∀ name, (s.repetition name).message ∉ api.check.defects.map Defect.message := by
  have hreported : ∀ name, (s.repetition name).message ∈ api.check.defects.map Defect.message ↔
      1 < (s.entityNames api).count name := by
    intro name
    rw [← repetition_mem_defects, List.mem_map]
    constructor
    · rintro ⟨defect, hdefect, hmessage⟩
      exact s.eq_of_message_repetition hmessage ▸ hdefect
    · intro h
      exact ⟨_, h, rfl⟩
  simp only [hreported, Nat.not_lt, List.nodup_iff_count_le_one]

end Strategy

namespace Resolver

variable {μ : Type} {r : Resolver μ} {path : String}

/-- Entities that are not renamed are seen under their names. -/
theorem forall₂_named {ε ν : Type} {name : ε → String} {names : ν → Names} {toData : ν → Data}
    {es : List ε} {vs : List ν} (hdata : ∀ v, (toData v).member? "name" = some (names v).toData)
    (hcalled : List.Forall₂ (fun e v => ∃ s, r.Called (name e) s ∧ names v = Names.of s) es vs)
    (hnames : ∀ n ∈ es.map name, r.renderer.has (Renderer.renameName n) = false) :
    List.Forall₂ (fun n view => view.member? "name" = some (Names.of n).toData)
      (es.map name) (vs.map toData) := by
  rw [List.forall₂_map_left_iff, List.forall₂_map_right_iff]
  have hno : ∀ e ∈ es, r.renderer.has (Renderer.renameName (name e)) = false :=
    fun e he => hnames _ (List.mem_map_of_mem he)
  refine ((List.forall₂_and_left _ _).2 ⟨hno, hcalled⟩).imp ?_
  rintro e v ⟨hno, s, hs, hv⟩
  rw [hdata, hv, hs.eq_of_not_has hno]

theorem names_of_views {api : Api} {memory : μ} {views : Views} (s : Strategy)
    (hviews : (r.views api memory).outcome = .ok views)
    (hnames : ∀ name ∈ s.entityNames api, r.renderer.has (Renderer.renameName name) = false) :
    List.Forall₂ (fun name view => view.member? "name" = some (Names.of name).toData)
      (s.entityNames api) (entities s views) := by
  obtain ⟨dtos, methods, rfl, hdtos, hmethods⟩ := canGive_of_views ⟨memory, hviews⟩
  have hdto : ∀ v : DtoView, v.toData.member? "name" = some v.name.toData := fun _ => rfl
  have hmethod : ∀ v : MethodView, v.toData.member? "name" = some v.name.toData := fun _ => rfl
  cases s with
  | allDtos | eachDto =>
    exact forall₂_named hdto (hdtos.imp fun _ _ h => name_of_dtoView h) hnames
  | allMethods | eachMethod =>
    exact forall₂_named hmethod (hmethods.imp fun _ _ h => name_of_methodView h) hnames

/-! ### One template file for each entity -/

/-- A single template file ends as its batch does: there is nothing else that its files could
collide with. -/
theorem outcome_addTemplateFiles_single {views : Views} {template : TemplateFile} {s : Strategy}
    (hstrategy : template.strategy = s.name) (memory : μ) :
    (r.addTemplateFiles views .empty [template] memory).outcome =
      (r.batch template.templatePath .empty (passes s views) memory).outcome.map Prod.fst := by
  rw [addTemplateFiles]
  show (Run.andThen (Run.ofOutcome (Strategy.ofName template.strategy)) _ _).outcome = _
  rw [Strategy.ofName_eq_ok.2 hstrategy, Run.outcome_ofOutcome_ok]
  show (Run.andThen (r.batch template.templatePath .empty (passes s views)) _ _).outcome = _
  cases hbatch : (r.batch template.templatePath .empty (passes s views) memory).outcome with
  | error e => exact Run.outcome_andThen_of_error hbatch _
  | ok made =>
    obtain ⟨new, after⟩ := made
    have hmerged : TargetFiles.empty.insertAll new = .ok new := TargetFiles.insertAll_eq_ok.2 rfl
    rw [Run.outcome_andThen_of_ok hbatch]
    show (Run.andThen (Run.ofOutcome (TargetFiles.empty.insertAll new)) _ _).outcome = _
    rw [hmerged, Run.outcome_ofOutcome_ok]
    rfl

/-- A run for a single template file ends as its batch does, once the views are computed. -/
theorem outcome_resolve_single {api : Api} {memory : μ} {views : Views} {template : TemplateFile}
    {s : Strategy} (htemplates : r.configuration.templateFiles = [template])
    (hstrategy : template.strategy = s.name)
    (hviews : (r.views api memory).outcome = .ok views) :
    (r.resolve api memory).outcome =
      (r.batch template.templatePath .empty (passes s views)
        (r.views api memory).memory).outcome.map Prod.fst := by
  show (Run.andThen (r.views api) _ memory).outcome = _
  rw [Run.outcome_andThen_of_ok hviews, htemplates, outcome_addTemplateFiles_single hstrategy]

theorem passes_of_forEach {s : Strategy} (hs : s.isForEach = true) (views : Views) :
    passes s views = (entities s views).map fun view => .record [(s.item, view)] := by
  unfold passes
  rw [if_pos hs]

/-- The renderings for the entities, in order, name their files after the entities. -/
theorem forall₂_namesFile {api : Api} {memory : μ} {s : Strategy} {f : String → String}
    {views : Views} (hforEach : s.isForEach = true)
    (hnames : ∀ name ∈ s.entityNames api, r.renderer.has (Renderer.renameName name) = false)
    (hviews : (r.views api memory).outcome = .ok views)
    (hfiles : ∀ view ∈ entities s views, ∀ name,
      view.member? "name" = some (Names.of name).toData →
        r.NamesFile path (.record [(s.item, view)]) (f name)) :
    List.Forall₂ (r.NamesFile path) (passes s views) ((s.entityNames api).map f) := by
  rw [passes_of_forEach hforEach, List.forall₂_map_left_iff, List.forall₂_map_right_iff]
  -- a view counts only as one of those of the model, so that is kept beside its name
  have hview := (List.forall₂_and_left _ _).2
    ⟨fun view hview => hview, (names_of_views s hviews hnames).flip⟩
  exact hview.imp fun view name h => hfiles view h.1 name h.2

/-- The check of a model predicts the collisions of a template file that is rendered once for each
entity.

No entity is renamed, the views can be computed, and for the view of an entity the renderer gives a
filename that is an injective function of the entity's name, and a text.  Then the run succeeds
exactly if the check reports no entity of the kind as repeated; otherwise it fails for the filename
of the first entity, in the order of the model, whose name has been there before. -/
theorem resolve_forEach_iff (r : Resolver μ) (api : Api) (memory : μ) {s : Strategy}
    {template : TemplateFile} {f : String → String} {views : Views}
    (hforEach : s.isForEach = true) (hstrategy : template.strategy = s.name)
    (htemplates : r.configuration.templateFiles = [template])
    (hnames : ∀ name ∈ s.entityNames api, r.renderer.has (Renderer.renameName name) = false)
    (hviews : (r.views api memory).outcome = .ok views)
    (hf : Function.Injective f)
    (hfiles : ∀ view ∈ entities s views, ∀ name,
      view.member? "name" = some (Names.of name).toData →
        r.NamesFile template.templatePath (.record [(s.item, view)]) (f name)) :
    ((∃ files, (r.resolve api memory).outcome = .ok files) ↔
      ∀ name, (s.repetition name).message ∉ api.check.defects.map Defect.message) ∧
    ∀ e, (r.resolve api memory).outcome = .error e ↔
      ∃ before name after, s.entityNames api = before ++ name :: after ∧ before.Nodup ∧
        name ∈ before ∧ e = .duplicateFilename (f name) := by
  have hpasses := forall₂_namesFile hforEach hnames hviews hfiles
  rw [← Strategy.nodup_entityNames_iff, outcome_resolve_single htemplates hstrategy hviews]
  rcases batch_names hpasses .empty (r.views api memory).memory with
    ⟨hnodup, files, after, hbatch, -⟩ | ⟨filename, hfirst, hbatch⟩
  · have hdistinct : (s.entityNames api).Nodup := List.Nodup.of_map f hnodup
    rw [hbatch]
    refine ⟨⟨fun _ => hdistinct, fun _ => ⟨files, rfl⟩⟩, fun e => ⟨?_, ?_⟩⟩
    · intro h
      cases h
    · rintro ⟨before, name, after, heq, hbefore, hmem, -⟩
      exact absurd hdistinct (FirstRepeated.not_nodup ⟨before, after, heq, hbefore, hmem⟩)
  · obtain ⟨name, hname, rfl⟩ := (firstRepeated_map hf).1 hfirst
    rw [hbatch]
    refine ⟨⟨?_, fun h => absurd h hname.not_nodup⟩, fun e => ⟨?_, ?_⟩⟩
    · rintro ⟨files, h⟩
      cases h
    · intro h
      obtain ⟨before, after, heq, hbefore, hmem⟩ := hname
      cases h
      exact ⟨before, name, after, heq, hbefore, hmem, rfl⟩
    · rintro ⟨before, name', after, heq, hbefore, hmem, rfl⟩
      obtain rfl := hname.unique ⟨before, after, heq, hbefore, hmem⟩
      rfl

/-- The name of the DTO in the data of a rendering. -/
def dtoName (data : Data) : String :=
  match ((data.member? "dto").bind (Data.member? "name")).bind (Data.member? "original") with
  | some (.text s) => s
  | _ => ""

/-- A resolver for one template file that is rendered for each DTO.  Its renderer names the file
after the DTO; the text is the number of renderings before it. -/
def numbering : Resolver Nat where
  configuration := ⟨"I", "S", "L", "A", "O", [], [⟨"t", "x", "FOR_EACH_DTO"⟩]⟩
  renderer :=
    { has := fun _ => false
      render := fun name data n =>
        (.ok ⟨if name = "t_name" then dtoName data else toString n, data⟩, n + 1) }

theorem namesFile_numbering {view : Data} {name : String}
    (h : view.member? "name" = some (Names.of name).toData) :
    numbering.NamesFile "t" (.record [("dto", view)]) name := by
  have hname : dtoName (.record [("dto", view)]) = name := by
    have hdto : (Data.record [("dto", view)]).member? "dto" = some view := rfl
    rw [dtoName, hdto, Option.bind_some, h]
    rfl
  exact ⟨fun _ => ⟨_, rfl, hname⟩, fun _ _ _ _ => ⟨_, rfl⟩⟩

/-- A model of three DTOs, the third with the name of the first. -/
def repeatedDto : Api := ⟨[⟨"A", []⟩, ⟨"B", []⟩, ⟨"A", []⟩], []⟩

/-- Both find the third DTO: the check reports its name, and the run stops at its file. -/
theorem resolve_forEach_iff_repeated :
    (∃ views, (numbering.views repeatedDto 0).outcome = .ok views) ∧
    repeatedDto.check.defects.map Defect.message = ["DTO 'A' is defined more than once"] ∧
    (numbering.resolve repeatedDto 0).outcome = .error (.duplicateFilename "A") := by
  have hviews : ∃ views, (numbering.views repeatedDto 0).outcome = .ok views := ⟨_, rfl⟩
  refine ⟨hviews, by decide, ?_⟩
  obtain ⟨views, hviews⟩ := hviews
  have hiff := resolve_forEach_iff numbering repeatedDto 0 (s := .eachDto) rfl rfl rfl
    (fun _ _ => rfl) hviews Function.injective_id fun _ _ _ h => namesFile_numbering h
  exact (hiff.2 _).2 ⟨["A", "B"], "A", [], rfl, by decide, by decide, rfl⟩

end Resolver
end ApiScribe
