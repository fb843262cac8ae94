import ApiScribe.Proofs.Resolution.Files

/-!
# The result of a resolution

When a run succeeds (`exists_resolve_iff`), what it gives, and that the order of the template files
counts for the order of the files only (`exists_resolve_of_perm`).  The last rests on the views,
which do not depend on the template files (`views_withTemplates`).
-/

namespace ApiScribe

/-- The configuration with other template files. -/
def Configuration.withTemplates (c : Configuration) (templates : List TemplateFile) :
    Configuration :=
  { c with templateFiles := templates }

namespace Resolver

section
variable (c : Configuration) (has : String → Bool) (answer : Answers)
  (templates : List TemplateFile)

/-! ### Views and template files -/

theorem typeText_withTemplates (t : TypeDescriptor) :
    (ofAnswers (c.withTemplates templates) has answer).typeText t =
      (ofAnswers c has answer).typeText t := by
  induction t with
  | integer | string | boolean | reference => rfl
  | array element ih => rw [typeText, typeText, ih]; rfl
  | optional inner ih => rw [typeText, typeText, ih]; rfl

theorem memberView_withTemplates (owner : Names) :
    (ofAnswers (c.withTemplates templates) has answer).memberView owner =
      (ofAnswers c has answer).memberView owner := by
  funext m
  unfold memberView
  rw [typeText_withTemplates]
  rfl

theorem views_withTemplates (api : Api) :
    (ofAnswers (c.withTemplates templates) has answer).views api =
      (ofAnswers c has answer).views api := by
  have hdto : (ofAnswers (c.withTemplates templates) has answer).dtoView =
      (ofAnswers c has answer).dtoView := by
    funext dto
    unfold dtoView
    rw [memberView_withTemplates]
    rfl
  have hmethod : (ofAnswers (c.withTemplates templates) has answer).methodView =
      (ofAnswers c has answer).methodView := by
    funext method
    unfold methodView
    rw [memberView_withTemplates]
    rfl
  unfold views
  rw [hdto, hmethod]

variable {c has answer templates}

/-- What is seen of a model does not depend on the template files. -/
theorem seen_withTemplates {api : Api} {views : Views} :
    Seen (c.withTemplates templates) has answer api views ↔ Seen c has answer api views := by
  rw [← views_eq_ok, ← views_eq_ok, views_withTemplates]

/-- Template files in another order make the same files in another order. -/
theorem exists_resolve_of_perm (hkeeps : answer.KeepsData) {api : Api} {files : TargetFiles}
    (hp : templates.Perm c.templateFiles)
    (h : ((ofAnswers c has answer).resolve api).result = .ok files) :
    ∃ files', ((ofAnswers (c.withTemplates templates) has answer).resolve api).result = .ok files' ∧
      files'.toList.Perm files.toList := by
  obtain ⟨views, batches, hseen, hbatches, hl⟩ := (resolve_eq_ok hkeeps).1 h
  -- the batches are permuted as their template files are
  obtain ⟨batches', hbatches', hperm⟩ := List.perm_comp_forall₂ hp hbatches
  have hflat : batches'.flatten.Perm files.toList := hl ▸ hperm.flatten
  have hd : (batches'.flatten.map TargetFile.filename).Nodup :=
    (hflat.map TargetFile.filename).nodup_iff.2 files.distinct
  refine ⟨⟨_, hd⟩, (resolve_eq_ok hkeeps).2 ⟨views, batches', ?_, hbatches', rfl⟩, hflat⟩
  exact seen_withTemplates.2 hseen

/-! ### When a run succeeds -/

/-- In a run that succeeds every rendering for the batches does, and all filenames are distinct. -/
theorem renders_of_batches {views : Views} {batches : List (List TargetFile)} {files : TargetFiles}
    (hbatches : List.Forall₂ (BatchMade answer views) c.templateFiles batches)
    (hl : files.toList = batches.flatten) :
    (∀ template ∈ c.templateFiles, ∀ s : Strategy, template.strategy = s.name →
      ∀ data ∈ s.renderings views,
        (∃ filename, answer.Gives (Renderer.filenameName template.templatePath) data filename) ∧
          ∃ content, answer.Gives template.templatePath data content) ∧
    ∀ batches', List.Forall₂ (BatchMade answer views) c.templateFiles batches' →
      (batches'.flatten.map TargetFile.filename).Nodup := by
  have hbatch := exists_forall₂_iff.1 ⟨batches, hbatches⟩
  refine ⟨?_, ?_⟩
  · intro template ht s hs data hdata
    obtain ⟨_, s', hs', hfiles⟩ := hbatch template ht
    obtain rfl : s = s' := Strategy.name_injective (hs.symm.trans hs')
    obtain ⟨file, hfile⟩ := exists_forall₂_iff.1 ⟨_, hfiles⟩ data hdata
    exact ⟨⟨_, hfile.filename⟩, ⟨_, hfile.content⟩⟩
  · intro batches' hbatches'
    have hunique : Relator.RightUnique (BatchMade answer views) :=
      fun _ _ _ => BatchMade.unique
    obtain rfl := List.right_unique_forall₂' hunique hbatches hbatches'
    exact hl ▸ files.distinct

/-- A run succeeds exactly when all it needs does: the views, the strategies, the renderings and
the filenames. -/
theorem exists_resolve_iff (hkeeps : answer.KeepsData) {api : Api} :
    (∃ files, ((ofAnswers c has answer).resolve api).result = .ok files) ↔
      (∀ dto ∈ api.dtos, Viewable c has answer dto.name dto.fields) ∧
      (∀ method ∈ api.methods, Viewable c has answer method.name method.parameters) ∧
      (∀ template ∈ c.templateFiles, ∃ s : Strategy, template.strategy = s.name) ∧
      ∀ views, Seen c has answer api views →
        (∀ template ∈ c.templateFiles, ∀ s : Strategy, template.strategy = s.name →
          ∀ data ∈ s.renderings views,
            (∃ filename, answer.Gives (Renderer.filenameName template.templatePath) data filename) ∧
              ∃ content, answer.Gives template.templatePath data content) ∧
        ∀ batches, List.Forall₂ (BatchMade answer views) c.templateFiles batches →
          (batches.flatten.map TargetFile.filename).Nodup := by
  constructor
  · rintro ⟨files, h⟩
    obtain ⟨views, batches, hseen, hbatches, hl⟩ := (resolve_eq_ok hkeeps).1 h
    obtain ⟨hd, hm⟩ := exists_seen_iff.1 ⟨views, hseen⟩
    refine ⟨hd, hm, ?_, ?_⟩
    · intro template ht
      obtain ⟨_, s, hs, -⟩ := exists_forall₂_iff.1 ⟨batches, hbatches⟩ template ht
      exact ⟨s, hs⟩
    · intro views' hseen'
      obtain rfl := hseen.unique hseen'
      exact renders_of_batches hbatches hl
  · rintro ⟨hd, hm, hs, hrest⟩
    obtain ⟨views, hseen⟩ := exists_seen_iff.2 ⟨hd, hm⟩
    obtain ⟨hrenders, hdistinct⟩ := hrest views hseen
    have hbatch : ∀ template ∈ c.templateFiles, ∃ files, BatchMade answer views template files := by
      intro template ht
      obtain ⟨s, hts⟩ := hs template ht
      refine exists_batchMade hts ?_
      intro data hdata
      obtain ⟨⟨filename, hf⟩, ⟨content, hc⟩⟩ := hrenders template ht s hts data hdata
      exact ⟨⟨filename, content⟩, hf, hc⟩
    obtain ⟨batches, hbatches⟩ := exists_forall₂_iff.2 hbatch
    exact ⟨⟨_, hdistinct batches hbatches⟩,
      (resolve_eq_ok hkeeps).2 ⟨views, batches, hseen, hbatches, rfl⟩⟩

end

/-! ### The result -/

/-- What a run with a renderer that remembers nothing and leaves the data as they are comes to.

It succeeds exactly when every rendering for the views of all entities succeeds, every strategy is
known, every rendering of a filename or a text succeeds, and all filenames are distinct.  Then its
files are the batches of the template files, one after the other: a file for each entity, or one
file for all of them.  With the template files in another order the run succeeds as well, with the
same files. -/
theorem resolve_flat (c : Configuration) (has : String → Bool) (answer : Answers)
    (hkeeps : answer.KeepsData) (api : Api) :
    ((∃ files, ((ofAnswers c has answer).resolve api).result = .ok files) ↔
      (∀ dto ∈ api.dtos, Viewable c has answer dto.name dto.fields) ∧
      (∀ method ∈ api.methods, Viewable c has answer method.name method.parameters) ∧
      (∀ template ∈ c.templateFiles, ∃ s : Strategy, template.strategy = s.name) ∧
      ∀ views, Seen c has answer api views →
        (∀ template ∈ c.templateFiles, ∀ s : Strategy, template.strategy = s.name →
          ∀ data ∈ s.renderings views,
            (∃ filename, answer.Gives (Renderer.filenameName template.templatePath) data filename) ∧
              ∃ content, answer.Gives template.templatePath data content) ∧
        ∀ batches, List.Forall₂ (BatchMade answer views) c.templateFiles batches →
          (batches.flatten.map TargetFile.filename).Nodup) ∧
    (∀ files, ((ofAnswers c has answer).resolve api).result = .ok files →
      ∃ views batches, Seen c has answer api views ∧
        List.Forall₂ (BatchMade answer views) c.templateFiles batches ∧
        files.toList = batches.flatten) ∧
    ∀ templates, templates.Perm c.templateFiles →
      ((∃ files, ((ofAnswers (c.withTemplates templates) has answer).resolve api).result =
          .ok files) ↔ ∃ files, ((ofAnswers c has answer).resolve api).result = .ok files) ∧
      ∀ files files', ((ofAnswers c has answer).resolve api).result = .ok files →
        ((ofAnswers (c.withTemplates templates) has answer).resolve api).result = .ok files' →
          files'.toList.Perm files.toList := by
  refine ⟨exists_resolve_iff hkeeps, ?_, ?_⟩
  · intro files h
    exact (resolve_eq_ok hkeeps).1 h
  · intro templates hp
    have hback : c.templateFiles.Perm (c.withTemplates templates).templateFiles := hp.symm
    refine ⟨⟨?_, ?_⟩, ?_⟩
    · rintro ⟨files, h⟩
      obtain ⟨files', h', -⟩ := exists_resolve_of_perm hkeeps hback h
      exact ⟨files', h'⟩
    · rintro ⟨files, h⟩
      obtain ⟨files', h', -⟩ := exists_resolve_of_perm hkeeps hp h
      exact ⟨files', h'⟩
    · intro files files' h h'
      obtain ⟨files'', h'', hperm⟩ := exists_resolve_of_perm hkeeps hp h
      rw [h'] at h''
      cases h''
      exact hperm

/-- A configuration with the given template files. -/
def sampleConfiguration (templates : List TemplateFile) : Configuration where
  integerType := "Int"
  stringType := "Text"
  booleanType := "Bool"
  arrayType := "List"
  optionalType := "Option"
  templateFiles := templates

/-- Answers with the name of the template, after the name of the entity if there is one. -/
def labels : Answers := fun name data =>
  match ((data.member? "dto").bind (Data.member? "name")).bind (Data.member? "original") with
  | some (.text s) => .ok ⟨s ++ "." ++ name, data⟩
  | _ => .ok ⟨name, data⟩

theorem labels_keepsData : labels.KeepsData := by
  intro name data rendered h
  unfold labels at h
  split at h <;> (cases h; rfl)

/-- Two entities and one empty collection: three files, from two batches. -/
theorem resolve_flat_labels :
    labels.KeepsData ∧
    ∃ views batches,
      Seen (sampleConfiguration [⟨"t", "x", "FOR_EACH_DTO"⟩, ⟨"u", "y", "FOR_ALL_METHODS"⟩])
        (fun _ => false) labels ⟨[⟨"A", []⟩, ⟨"B", [⟨"x", .array .integer⟩]⟩], []⟩ views ∧
      List.Forall₂ (BatchMade labels views)
        [⟨"t", "x", "FOR_EACH_DTO"⟩, ⟨"u", "y", "FOR_ALL_METHODS"⟩] batches ∧
      [⟨"A.t_name", "A.t"⟩, ⟨"B.t_name", "B.t"⟩, ⟨"u_name", "u"⟩] = batches.flatten :=
  ⟨labels_keepsData,
    (resolve_flat (sampleConfiguration [⟨"t", "x", "FOR_EACH_DTO"⟩, ⟨"u", "y", "FOR_ALL_METHODS"⟩])
      (fun _ => false) labels labels_keepsData
      ⟨[⟨"A", []⟩, ⟨"B", [⟨"x", .array .integer⟩]⟩], []⟩).2.1 ⟨_, by decide⟩ rfl⟩

/-! ### Renderings that change the data -/

/-- Answers that depend on name and data alone, but the template `b` adds an item to the list of
DTOs, as a template can.  The template `c` tells whether there is one DTO or more. -/
def appends : Answers := fun name data =>
  match data.member? "dtos" with
  | some (.list dtos) =>
    if name = "b" then .ok ⟨"None", .record [("dtos", .list (dtos ++ [.int 1]))]⟩
    else if name = "c" then .ok ⟨if dtos.length = 1 then "1" else "2", data⟩
    else .ok ⟨name, data⟩
  | _ => .ok ⟨name, data⟩

/-- A model of one DTO, the template files `b` and `c` in both orders: after `b` the template `c`
is rendered against two items, before it against one.  So the files are not those that the views
of the model call for, and they depend on the order of the template files. -/
theorem order_counts_for_changed_data :
    ∃ files files' : TargetFiles,
      ((ofAnswers (sampleConfiguration [⟨"b", "x", "FOR_ALL_DTOS"⟩, ⟨"c", "y", "FOR_ALL_DTOS"⟩])
        (fun _ => false) appends).resolve ⟨[⟨"A", []⟩], []⟩).result = .ok files ∧
      files.toList = [⟨"b_name", "None"⟩, ⟨"c_name", "2"⟩] ∧
      ((ofAnswers (sampleConfiguration [⟨"c", "y", "FOR_ALL_DTOS"⟩, ⟨"b", "x", "FOR_ALL_DTOS"⟩])
        (fun _ => false) appends).resolve ⟨[⟨"A", []⟩], []⟩).result = .ok files' ∧
      files'.toList = [⟨"c_name", "1"⟩, ⟨"b_name", "None"⟩] ∧
      ¬ files'.toList.Perm files.toList ∧
      ∀ views, Seen (sampleConfiguration [⟨"b", "x", "FOR_ALL_DTOS"⟩, ⟨"c", "y", "FOR_ALL_DTOS"⟩])
        (fun _ => false) appends ⟨[⟨"A", []⟩], []⟩ views →
          appends.Gives "c" (.record [("dtos", .list views.dtos)]) "1" := by
  refine ⟨⟨[⟨"b_name", "None"⟩, ⟨"c_name", "2"⟩], by decide⟩,
    ⟨[⟨"c_name", "1"⟩, ⟨"b_name", "None"⟩], by decide⟩, rfl, rfl, rfl, rfl, ?_, ?_⟩
  · intro hp
    have hm : (⟨"c_name", "1"⟩ : TargetFile) ∈
        [(⟨"b_name", "None"⟩ : TargetFile), ⟨"c_name", "2"⟩] := hp.mem_iff.1 List.mem_cons_self
    exact absurd hm (by decide)
  · rintro views ⟨dtos, methods, hd, -, rfl⟩
    obtain ⟨view, rfl⟩ := List.length_eq_one_iff.1 hd.length_eq.symm
    exact ⟨_, rfl, rfl⟩

end Resolver
end ApiScribe
