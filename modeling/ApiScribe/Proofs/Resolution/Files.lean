import Mathlib.Data.List.Perm.Basic
import ApiScribe.Proofs.Resolution.Views
import ApiScribe.Proofs.TargetFiles
import ApiScribe.Proofs.Traversal

/-!
# The files of a model

A run goes through template files, through the renderings of each, and merges what it gets batch by
batch, watching for two files of one name on both levels.  All that is left of it in the result is
a flat list: `addTemplateFiles_eq_ok` says that the run succeeds exactly when each template file
has its batch of files (`BatchMade`) and the batches, put one after the other, have distinct
filenames; that list is the result.

The statement needs renderers that leave the data of a rendering as they are.  A template may
change them, and later template files are rendered against what it left.
-/

namespace ApiScribe

/-! ### Files and batches -/

/-- The data of each rendering of a template file: each view under the name for one entity, or all
views at once under the name for all, also when there is none. -/
def Strategy.renderings (views : Resolver.Views) : Strategy → List Data
  | .eachDto => views.dtos.map fun view => .record [("dto", view)]
  | .eachMethod => views.methods.map fun view => .record [("method", view)]
  | .allDtos => [.record [("dtos", .list views.dtos)]]
  | .allMethods => [.record [("methods", .list views.methods)]]

section
variable (answer : Answers)

/-- The file of one rendering: its name and its text are rendered against the same data. -/
structure FileMade (path : String) (data : Data) (file : TargetFile) : Prop where
  filename : answer.Gives (Renderer.filenameName path) data file.filename
  content : answer.Gives path data file.content

/-- The files of a template file: one for each rendering, in order. -/
def BatchMade (views : Resolver.Views) (template : TemplateFile) (files : List TargetFile) : Prop :=
  ∃ s : Strategy, template.strategy = s.name ∧
    List.Forall₂ (FileMade answer template.templatePath) (s.renderings views) files

end

theorem Strategy.ofName_eq_ok {value : String} {s : Strategy} :
    Strategy.ofName value = .ok s ↔ value = s.name := by
  constructor
  · intro h
    unfold Strategy.ofName at h
    split at h
    · next found =>
      cases h
      have hname := List.find?_some found
      exact (eq_of_beq hname).symm
    · cases h
  · rintro rfl
    cases s <;> rfl

theorem Strategy.name_injective {s s' : Strategy} (h : s.name = s'.name) : s = s' := by
  have hs := Strategy.ofName_eq_ok.2 h
  rw [Strategy.ofName_eq_ok.2 rfl] at hs
  exact Except.ok.inj hs

namespace Resolver

theorem passes_eq_renderings (s : Strategy) (views : Views) :
    passes s views = s.renderings views := by
  cases s <;> rfl

/-- When rendering changes no data, the views stay as they are. -/
theorem viewsAfter_passes (s : Strategy) (views : Views) :
    viewsAfter s views (passes s views) = views := by
  have hitem : ∀ (name : String) (found : List Data),
      (found.map fun entity => Data.record [(name, entity)]).map
        (fun data => (data.member? name).getD data) = found := by
    intro name found
    rw [List.map_map, List.map_congr_left (g := id), List.map_id]
    intro data _
    simp [Data.member?]
  cases s with
  | eachDto => exact congrArg (fun dtos => Views.mk dtos views.methods) (hitem "dto" views.dtos)
  | eachMethod => exact congrArg (Views.mk views.dtos) (hitem "method" views.methods)
  | allDtos => simp [viewsAfter, passes, withEntities, entities, Data.member?, Strategy.isForEach,
      Strategy.isForDtos]
  | allMethods => simp [viewsAfter, passes, withEntities, entities, Data.member?,
      Strategy.isForEach, Strategy.isForDtos]

section
variable {c : Configuration} {has : String → Bool} {answer : Answers} (hkeeps : answer.KeepsData)
include hkeeps

theorem targetFile_eq_ok {path : String} {data after : Data} {file : TargetFile} :
    ((ofAnswers c has answer).targetFile path data).result = .ok (file, after) ↔
      FileMade answer path data file ∧ after = data := by
  show (Run.andThen _ _).result = _ ↔ _
  rw [Run.result_andThen_eq_ok, result_run]
  constructor
  · rintro ⟨filename, hf, h⟩
    obtain ⟨content, hc, h⟩ := Run.result_andThen_eq_ok.1 h
    rw [result_run, hkeeps _ _ _ hf] at hc
    cases h
    exact ⟨⟨⟨filename, hf, rfl⟩, ⟨content, hc, rfl⟩⟩, hkeeps _ _ _ hc⟩
  · rintro ⟨⟨⟨filename, hf, hfn⟩, ⟨content, hc, hcn⟩⟩, rfl⟩
    refine ⟨filename, hf, Run.result_andThen_eq_ok.2 ⟨content, ?_, ?_⟩⟩
    · rw [result_run, hkeeps _ _ _ hf, hc]
    · show Except.ok _ = Except.ok _
      rw [hfn, hcn, hkeeps _ _ _ hc]

/-- A batch is gathered exactly when each rendering makes a file and no name comes twice. -/
theorem batch_eq_ok {path : String} {files files' : TargetFiles} {ds after : List Data} :
    ((ofAnswers c has answer).batch path files ds).result = .ok (files', after) ↔
      (∃ new, List.Forall₂ (FileMade answer path) ds new ∧ files'.toList = files.toList ++ new) ∧
        after = ds := by
  induction ds generalizing files after with
  | nil =>
    rw [batch, Run.result_done, Except.ok.injEq, Prod.mk.injEq]
    simp only [List.forall₂_nil_left_iff, exists_eq_left, List.append_nil]
    constructor
    · rintro ⟨rfl, rfl⟩
      exact ⟨rfl, rfl⟩
    · rintro ⟨h, rfl⟩
      exact ⟨TargetFiles.ext_toList h.symm, rfl⟩
  | cons data ds ih =>
    rw [batch]
    show (Run.andThen _ _).result = _ ↔ _
    rw [Run.result_andThen_eq_ok]
    constructor
    · rintro ⟨⟨file, data'⟩, hf, h⟩
      obtain ⟨hmade, rfl⟩ := (targetFile_eq_ok hkeeps).1 hf
      obtain ⟨more, hi, h⟩ := Run.result_andThen_eq_ok.1 h
      obtain ⟨⟨rest, ds'⟩, hb, h⟩ := Run.result_andThen_eq_ok.1 h
      cases h
      obtain ⟨⟨new, hnew, hl⟩, rfl⟩ := ih.1 hb
      refine ⟨⟨file :: new, .cons hmade hnew, ?_⟩, rfl⟩
      rw [hl, TargetFiles.insert_eq_ok.1 hi, List.append_assoc, List.singleton_append]
    · rintro ⟨⟨new, hnew, hl⟩, rfl⟩
      obtain ⟨file, rest, hmade, hrest, rfl⟩ := List.forall₂_cons_left_iff.1 hnew
      -- the file can be inserted since it is among files with distinct names in the end
      have hd : ((files.toList ++ [file]).map TargetFile.filename).Nodup :=
        files'.distinct_of_prefix
          ⟨rest, by rw [hl, List.append_assoc, List.singleton_append]⟩
      refine ⟨(file, data), (targetFile_eq_ok hkeeps).2 ⟨hmade, rfl⟩, ?_⟩
      refine Run.result_andThen_eq_ok.2 ⟨⟨_, hd⟩, TargetFiles.insert_eq_ok.2 rfl, ?_⟩
      refine Run.result_andThen_eq_ok.2 ⟨(files', ds), ih.2 ⟨⟨rest, hrest, ?_⟩, rfl⟩, rfl⟩
      rw [hl, List.append_assoc, List.singleton_append]

/-- All batches are merged exactly when each template file has one and no name comes twice. -/
theorem addTemplateFiles_eq_ok {views : Views} {files files' : TargetFiles}
    {templates : List TemplateFile} :
    ((ofAnswers c has answer).addTemplateFiles views files templates).result = .ok files' ↔
      ∃ batches, List.Forall₂ (BatchMade answer views) templates batches ∧
        files'.toList = files.toList ++ batches.flatten := by
  induction templates generalizing files with
  | nil =>
    rw [addTemplateFiles, Run.result_done, Except.ok.injEq]
    simp only [List.forall₂_nil_left_iff, exists_eq_left, List.flatten_nil, List.append_nil]
    exact ⟨fun h => h ▸ rfl, fun h => TargetFiles.ext_toList h.symm⟩
  | cons template templates ih =>
    rw [addTemplateFiles]
    show (Run.andThen _ _).result = _ ↔ _
    rw [Run.result_andThen_eq_ok]
    constructor
    · rintro ⟨s, hs, h⟩
      obtain ⟨⟨new, after⟩, hb, h⟩ := Run.result_andThen_eq_ok.1 h
      obtain ⟨merged, hm, h⟩ := Run.result_andThen_eq_ok.1 h
      obtain ⟨⟨batch, hbatch, hl⟩, rfl⟩ := (batch_eq_ok hkeeps).1 hb
      rw [viewsAfter_passes] at h
      obtain ⟨batches, hbatches, hf⟩ := ih.1 h
      rw [passes_eq_renderings] at hbatch
      refine ⟨batch :: batches, .cons ⟨s, Strategy.ofName_eq_ok.1 hs, hbatch⟩ hbatches, ?_⟩
      have hbatch' : new.toList = batch := hl
      rw [hf, TargetFiles.insertAll_eq_ok.1 hm, hbatch', List.flatten_cons, List.append_assoc]
    · rintro ⟨all, hall, hf⟩
      obtain ⟨batch, batches, ⟨s, hs, hbatch⟩, hbatches, rfl⟩ := List.forall₂_cons_left_iff.1 hall
      -- both collisions, in the batch and of the batch, would be collisions in the end
      have hmerged : ((files.toList ++ batch).map TargetFile.filename).Nodup :=
        files'.distinct_of_prefix
          ⟨batches.flatten, by rw [hf, List.flatten_cons, List.append_assoc]⟩
      have hnew : (batch.map TargetFile.filename).Nodup :=
        hmerged.sublist ((List.sublist_append_right _ _).map _)
      rw [← passes_eq_renderings] at hbatch
      refine ⟨s, Strategy.ofName_eq_ok.2 hs, Run.result_andThen_eq_ok.2
        ⟨(⟨batch, hnew⟩, passes s views), (batch_eq_ok hkeeps).2 ⟨⟨batch, hbatch, rfl⟩, rfl⟩, ?_⟩⟩
      refine Run.result_andThen_eq_ok.2 ⟨⟨_, hmerged⟩, TargetFiles.insertAll_eq_ok.2 rfl, ?_⟩
      rw [viewsAfter_passes]
      refine ih.2 ⟨batches, hbatches, ?_⟩
      rw [hf, List.flatten_cons, List.append_assoc]

/-- A run gives files exactly when they are the batches of all template files for the views of the
model, one after the other. -/
theorem resolve_eq_ok {api : Api} {files : TargetFiles} :
    ((ofAnswers c has answer).resolve api).result = .ok files ↔
      ∃ views batches, Seen c has answer api views ∧
        List.Forall₂ (BatchMade answer views) c.templateFiles batches ∧
        files.toList = batches.flatten := by
  show (Run.andThen _ _).result = _ ↔ _
  rw [Run.result_andThen_eq_ok]
  refine exists_congr fun views => ?_
  rw [views_eq_ok, addTemplateFiles_eq_ok hkeeps, exists_and_left]
  rfl

end

/-! ### When every rendering succeeds -/

section
variable {c : Configuration} {has : String → Bool} {answer : Answers}

variable (c has answer) in
/-- Every rendering that the view of an entity needs succeeds: that of its name and, for each
member, those of its name and of its type. -/
def Viewable (name : String) (members : List Member) : Prop :=
  (∃ s, Renamed has answer name (Names.of name) s) ∧
    ∀ m ∈ members, (∃ s, Renamed has answer m.name (Names.of name) s) ∧
      ∃ s, Written c answer m.type s

theorem exists_memberSeen_iff {owner : Names} {m : Member} :
    (∃ v, MemberSeen c has answer owner m v) ↔
      (∃ s, Renamed has answer m.name owner s) ∧ ∃ s, Written c answer m.type s := by
  constructor
  · rintro ⟨v, hv⟩
    exact ⟨⟨v.name, hv.name⟩, ⟨v.type, hv.type⟩⟩
  · rintro ⟨⟨name, hn⟩, ⟨type, ht⟩⟩
    exact ⟨⟨name, m.name, type, m.type.isOptional, m.type.referencedName?.map Names.of⟩,
      hn, ht, rfl, rfl, rfl⟩

theorem exists_dtoSeen_iff {dto : Dto} :
    (∃ v, DtoSeen c has answer dto v) ↔ Viewable c has answer dto.name dto.fields := by
  unfold Viewable
  simp only [← exists_memberSeen_iff (c := c)]
  rw [← exists_forall₂_iff]
  constructor
  · rintro ⟨v, ⟨s, hs, -⟩, hf, -⟩
    exact ⟨⟨s, hs⟩, ⟨v.fields, hf⟩⟩
  · rintro ⟨⟨s, hs⟩, ⟨fields, hf⟩⟩
    exact ⟨⟨Names.of s, fields, usedDtoNames dto.name dto.fields⟩, ⟨s, hs, rfl⟩, hf, rfl⟩

theorem exists_methodSeen_iff {method : Method} :
    (∃ v, MethodSeen c has answer method v) ↔
      Viewable c has answer method.name method.parameters := by
  unfold Viewable
  simp only [← exists_memberSeen_iff (c := c)]
  rw [← exists_forall₂_iff]
  constructor
  · rintro ⟨v, ⟨s, hs, -⟩, hp, -⟩
    exact ⟨⟨s, hs⟩, ⟨v.parameters, hp⟩⟩
  · rintro ⟨⟨s, hs⟩, ⟨parameters, hp⟩⟩
    exact ⟨⟨Names.of s, parameters, usedDtoNames method.name method.parameters⟩, ⟨s, hs, rfl⟩,
      hp, rfl⟩

/-- A model is seen exactly when all its entities can be viewed. -/
theorem exists_seen_iff {api : Api} : (∃ views, Seen c has answer api views) ↔
    (∀ dto ∈ api.dtos, Viewable c has answer dto.name dto.fields) ∧
      ∀ method ∈ api.methods, Viewable c has answer method.name method.parameters := by
  simp only [← exists_dtoSeen_iff, ← exists_methodSeen_iff]
  rw [← exists_forall₂_iff, ← exists_forall₂_iff]
  constructor
  · rintro ⟨views, dtos, methods, hd, hm, -⟩
    exact ⟨⟨dtos, hd⟩, ⟨methods, hm⟩⟩
  · rintro ⟨⟨dtos, hd⟩, ⟨methods, hm⟩⟩
    exact ⟨_, dtos, methods, hd, hm, rfl⟩

/-- Every template file has its batch when its strategy is known and all its renderings succeed. -/
theorem exists_batchMade {views : Views} {template : TemplateFile} {s : Strategy}
    (hs : template.strategy = s.name)
    (h : ∀ data ∈ s.renderings views, ∃ file, FileMade answer template.templatePath data file) :
    ∃ files, BatchMade answer views template files := by
  obtain ⟨files, hf⟩ := exists_forall₂_iff.2 h
  exact ⟨files, s, hs, hf⟩

end
end Resolver

/-! ### No choice is left -/

section
variable {c : Configuration} {has : String → Bool} {answer : Answers} {views : Resolver.Views}

theorem Seen.unique {api : Api} {views' : Resolver.Views} (h : Seen c has answer api views)
    (h' : Seen c has answer api views') : views = views' := by
  have hv := Resolver.views_eq_ok.2 h
  rw [Resolver.views_eq_ok.2 h'] at hv
  exact (Except.ok.inj hv).symm

theorem FileMade.unique {path : String} {data : Data} {file file' : TargetFile}
    (h : FileMade answer path data file) (h' : FileMade answer path data file') : file = file' := by
  obtain ⟨filename, content⟩ := file
  obtain rfl : filename = file'.filename := h.filename.unique h'.filename
  obtain rfl : content = file'.content := h.content.unique h'.content
  rfl

theorem BatchMade.unique {template : TemplateFile} {files files' : List TargetFile}
    (h : BatchMade answer views template files) (h' : BatchMade answer views template files') :
    files = files' := by
  obtain ⟨s, hs, hf⟩ := h
  obtain ⟨s', hs', hf'⟩ := h'
  obtain rfl : s = s' := Strategy.name_injective (hs.symm.trans hs')
  have hunique : Relator.RightUnique (FileMade answer template.templatePath) :=
    fun _ _ _ => FileMade.unique
  exact List.right_unique_forall₂' hunique hf hf'

end
end ApiScribe
