import ApiScribe.Generation.TemplateSet
import ApiScribe.Outcome

/-!
# What is registered for a configuration

Wrappers, template files and renames share one set of names, and each registers its sources by a
step of its own.  `Sources.Assigned` leaves the steps out: it says which part of a configuration
gives which source to which name.

Main statements: `Sources.lookup_ofConfiguration` — the sources of a configuration are exactly
those that are assigned; `TemplateSet.find?_ofConfiguration` — the templates are these sources,
compiled.
-/

namespace ApiScribe

/-! ### Names of templates -/

namespace Renderer

theorem renameName_injective : Function.Injective renameName := by
  intro x y h
  have hl := congrArg String.toList h
  rw [renameName, renameName, String.toList_append, String.toList_append] at hl
  exact String.toList_inj.1 (List.append_cancel_right hl)

/-- The ends of the two names are told apart by their fifth letter from behind. -/
theorem renameName_ne_filenameName (identifier path : String) :
    renameName identifier ≠ filenameName path := by
  intro h
  have hl := congrArg (fun s => s.toList.reverse) h
  simp [renameName, filenameName] at hl

/-- The wrappers are called `array` and `optional`, neither of which ends in `e`. -/
theorem append_not_reserved {suffix : String} (hsuffix : suffix.toList.getLast? = some 'e')
    (s : String) : s ++ suffix ∉ Sources.reserved := by
  intro h
  have hl : ∀ name ∈ Sources.reserved, name.toList.getLast? ≠ some 'e' := by decide
  apply hl _ h
  rw [String.toList_append, List.getLast?_append, hsuffix]
  rfl

theorem renameName_not_reserved (identifier : String) :
    renameName identifier ∉ Sources.reserved :=
  append_not_reserved (by decide) identifier

theorem filenameName_not_reserved (path : String) : filenameName path ∉ Sources.reserved :=
  append_not_reserved (by decide) path

end Renderer

namespace Sources

/-! ### One source -/

/-- After a source is registered, its name has it, and no other name has another one. -/
theorem lookup_register {sources sources' : Sources} {name source : String}
    (h : sources.register name source = .ok sources') (other s : String) :
    sources'.lookup other = some s ↔
      sources.lookup other = some s ∨ other = name ∧ s = source := by
  unfold register at h
  split at h
  · next hn =>
    cases h
    rw [List.lookup_append]
    by_cases ho : other = name
    · subst ho
      simp [hn, eq_comm]
    · have hb : (other == name) = false := beq_eq_false_iff_ne.2 ho
      simp [List.lookup_cons, hb, ho]
  · -- registered before, so nothing is added
    next old hold =>
    split at h
    · next he =>
      cases h
      subst he
      constructor
      · exact Or.inl
      · rintro (hs | ⟨rfl, rfl⟩)
        · exact hs
        · exact hold
    · cases h

/-- What steps that register sources do together, if each is known to add what `adds` says. -/
theorem lookup_foldlM {α ε : Type} {step : Sources → α → Except ε Sources}
    {adds : α → String → String → Prop} {as : List α} {sources sources' : Sources}
    (h : as.foldlM step sources = .ok sources')
    (hstep : ∀ sources a sources', step sources a = .ok sources' → ∀ name source,
      sources'.lookup name = some source ↔ sources.lookup name = some source ∨ adds a name source)
    (name source : String) :
    sources'.lookup name = some source ↔
      sources.lookup name = some source ∨ ∃ a ∈ as, adds a name source := by
  induction as generalizing sources with
  | nil =>
    cases h
    simp
  | cons a as ih =>
    rw [List.foldlM_cons] at h
    obtain ⟨middle, hm, h⟩ := Outcome.bind_eq_ok.1 h
    rw [ih h, hstep _ _ _ hm, or_assoc]
    simp only [List.mem_cons, exists_eq_or_imp]

/-! ### The parts of a configuration -/

/-- A template file adds its text under its path, and its target path under the name for it. -/
theorem lookup_registerTemplateFile {t : FileTree} {directory : Path} {sources sources' : Sources}
    {template : TemplateFile}
    (h : registerTemplateFile t directory sources template = .ok sources') (name source : String) :
    sources'.lookup name = some source ↔
      sources.lookup name = some source ∨
        name = template.templatePath ∧ readTemplate t directory template.templatePath = .ok source ∨
        name = Renderer.filenameName template.templatePath ∧ source = template.targetPath := by
  unfold registerTemplateFile at h
  dsimp only at h
  split at h
  · cases h
  · obtain ⟨content, hc, h⟩ := Outcome.bind_eq_ok.1 h
    obtain ⟨middle, hm, h⟩ := Outcome.bind_eq_ok.1 h
    rw [lookup_register (Outcome.mapError_eq_ok.1 h), lookup_register (Outcome.mapError_eq_ok.1 hm),
      or_assoc, hc, Except.ok.injEq, eq_comm (a := content)]

/-- A rename adds its replacement under the name for its identifier. -/
theorem lookup_registerRename {sources sources' : Sources} {r : Rename}
    (h : registerRename sources r = .ok sources') (name source : String) :
    sources'.lookup name = some source ↔
      sources.lookup name = some source ∨
        name = Renderer.renameName r.source ∧ source = r.replacement :=
  lookup_register h name source

/-- Once all template files are registered, each of them has been read. -/
theorem exists_readTemplate_of_foldlM {t : FileTree} {directory : Path}
    {templates : List TemplateFile} {sources sources' : Sources}
    (h : templates.foldlM (registerTemplateFile t directory) sources = .ok sources') :
    ∀ template ∈ templates,
      ∃ content, readTemplate t directory template.templatePath = .ok content := by
  induction templates generalizing sources with
  | nil =>
    intro template ht
    cases ht
  | cons first templates ih =>
    rw [List.foldlM_cons] at h
    obtain ⟨middle, hm, h⟩ := Outcome.bind_eq_ok.1 h
    intro template ht
    rcases List.mem_cons.1 ht with rfl | ht
    · unfold registerTemplateFile at hm
      dsimp only at hm
      split at hm
      · cases hm
      · obtain ⟨content, hc, -⟩ := Outcome.bind_eq_ok.1 hm
        exact ⟨content, hc⟩
    · exact ih h template ht

/-- Of the renames for an identifier the first counts. -/
theorem mem_firstRenames {renames : List Rename} {r : Rename} :
    r ∈ firstRenames renames ↔ renames.find? (·.source == r.source) = some r := by
  induction renames with
  | nil => simp [firstRenames]
  | cons first renames ih =>
    rw [firstRenames, List.mem_cons, List.mem_filter, ih, List.find?_cons]
    by_cases hs : first.source = r.source
    · simp [hs, eq_comm]
    · have hr : r ≠ first := by
        rintro rfl
        exact hs rfl
      have hb : (first.source == r.source) = false := beq_eq_false_iff_ne.2 hs
      simp [hb, hr, Ne.symm hs]

/-- A part of a configuration gives a source to a name. -/
inductive Assigned (t : FileTree) (directory : Path) (c : Configuration) :
    String → String → Prop
  | array : Assigned t directory c Renderer.arrayName c.arrayType
  | optional : Assigned t directory c Renderer.optionalName c.optionalType
  | content {template : TemplateFile} {content : String} (h : template ∈ c.templateFiles)
      (hr : readTemplate t directory template.templatePath = .ok content) :
      Assigned t directory c template.templatePath content
  | filename {template : TemplateFile} (h : template ∈ c.templateFiles) :
      Assigned t directory c (Renderer.filenameName template.templatePath) template.targetPath
  | replacement {r : Rename} (h : c.renames.find? (·.source == r.source) = some r) :
      Assigned t directory c (Renderer.renameName r.source) r.replacement

theorem lookup_wrappers {c : Configuration} {name source : String} :
    (wrappers c).lookup name = some source ↔
      name = Renderer.arrayName ∧ source = c.arrayType ∨
        name = Renderer.optionalName ∧ source = c.optionalType := by
  rw [wrappers, List.lookup_cons]
  by_cases ha : name = Renderer.arrayName
  · subst ha
    have hne : Renderer.arrayName ≠ Renderer.optionalName := by decide
    simp [hne, eq_comm]
  · have hb : (name == Renderer.arrayName) = false := beq_eq_false_iff_ne.2 ha
    by_cases ho : name = Renderer.optionalName
    · subst ho
      simp [hb, ha, eq_comm]
    · have hb' : (name == Renderer.optionalName) = false := beq_eq_false_iff_ne.2 ho
      simp [hb, hb', ha, ho, List.lookup_cons]

/-- The sources of a configuration are those that its parts give to names. -/
theorem lookup_ofConfiguration {t : FileTree} {directory : Path} {c : Configuration}
    {sources : Sources} (h : ofConfiguration t directory c = .ok sources) {name source : String} :
    sources.lookup name = some source ↔ Assigned t directory c name source := by
  obtain ⟨files, hf, hr⟩ := Outcome.bind_eq_ok.1 h
  -- renames, template files and wrappers, from the last to the first
  rw [lookup_foldlM (Outcome.mapError_eq_ok.1 hr) fun _ _ _ => lookup_registerRename,
    lookup_foldlM hf fun _ _ _ => lookup_registerTemplateFile, lookup_wrappers]
  constructor
  · rintro (((⟨rfl, rfl⟩ | ⟨rfl, rfl⟩) | ⟨template, ht, ⟨rfl, hs⟩ | ⟨rfl, rfl⟩⟩) |
      ⟨r, hm, rfl, rfl⟩)
    · exact .array
    · exact .optional
    · exact .content ht hs
    · exact .filename ht
    · exact .replacement (mem_firstRenames.1 hm)
  · intro ha
    cases ha with
    | array => exact .inl (.inl (.inl ⟨rfl, rfl⟩))
    | optional => exact .inl (.inl (.inr ⟨rfl, rfl⟩))
    | content ht hs => exact .inl (.inr ⟨_, ht, .inl ⟨rfl, hs⟩⟩)
    | filename ht => exact .inl (.inr ⟨_, ht, .inr ⟨rfl, rfl⟩⟩)
    | replacement hm => exact .inr ⟨_, mem_firstRenames.2 hm, rfl, rfl⟩

end Sources

/-! ### Compiled sources -/

namespace TemplateSet

open Sources (Assigned)

/-- The set has a source, compiled, under a name. -/
def Holds (s : TemplateSet) (name source : String) : Prop :=
  ∃ template, compile name source = .ok template ∧ s.find? name = some template

/-- A set has the templates of its sources and no others. -/
theorem find?_ofSources {sources : List (String × String)} {s : TemplateSet}
    (h : ofSources sources = .ok s) (name : String) :
    (sources.lookup name = none ∧ s.find? name = none) ∨
      ∃ source, sources.lookup name = some source ∧ s.Holds name source := by
  obtain ⟨templates, ht, rfl⟩ := Outcome.map_eq_ok.1 h
  clear h
  -- by induction on the sources: in both lists the first entry of a name counts
  induction sources generalizing templates with
  | nil =>
    cases ht
    exact .inl ⟨rfl, rfl⟩
  | cons entry sources ih =>
    rw [List.mapM_cons] at ht
    obtain ⟨first, hfirst, ht⟩ := Outcome.bind_eq_ok.1 ht
    obtain ⟨rest, hrest, ht⟩ := Outcome.bind_eq_ok.1 ht
    obtain ⟨template, hc, hfirst⟩ := Outcome.bind_eq_ok.1 hfirst
    cases ht
    cases hfirst
    unfold Holds find?
    rw [List.lookup_cons, List.lookup_cons]
    by_cases hn : name = entry.1
    · subst hn
      rw [beq_self_eq_true]
      exact .inr ⟨_, rfl, template, hc, rfl⟩
    · rw [beq_eq_false_iff_ne.2 hn]
      exact ih rest hrest

section
variable {t : FileTree} {directory : Path} {c : Configuration} {s : TemplateSet} {name : String}

/-- The set of a configuration has a template for each name that is given a source, and for no
other. -/
theorem find?_ofConfiguration (h : ofConfiguration t directory c = .ok s) (name : String) :
    ((∀ source, ¬ Assigned t directory c name source) ∧ s.find? name = none) ∨
      ∃ source, Assigned t directory c name source ∧ s.Holds name source := by
  obtain ⟨sources, hs, ho⟩ := Outcome.bind_eq_ok.1 h
  rcases find?_ofSources ho name with ⟨hn, hf⟩ | ⟨source, hl, hh⟩
  · refine .inl ⟨?_, hf⟩
    intro source ha
    rw [← Sources.lookup_ofConfiguration hs, hn] at ha
    cases ha
  · exact .inr ⟨source, (Sources.lookup_ofConfiguration hs).1 hl, hh⟩

/-- Each template file of the configuration has been read. -/
theorem exists_readTemplate (h : ofConfiguration t directory c = .ok s) {template : TemplateFile}
    (ht : template ∈ c.templateFiles) :
    ∃ content, Sources.readTemplate t directory template.templatePath = .ok content := by
  obtain ⟨sources, hs, -⟩ := Outcome.bind_eq_ok.1 h
  obtain ⟨files, hf, -⟩ := Outcome.bind_eq_ok.1 hs
  exact Sources.exists_readTemplate_of_foldlM hf template ht

/-- No name is given two sources. -/
theorem assigned_unique (h : ofConfiguration t directory c = .ok s) {source source' : String}
    (ha : Assigned t directory c name source) (ha' : Assigned t directory c name source') :
    source = source' := by
  obtain ⟨sources, hs, -⟩ := Outcome.bind_eq_ok.1 h
  rw [← Sources.lookup_ofConfiguration hs] at ha ha'
  exact Option.some.inj (ha.symm.trans ha')

/-- A source that is given to a name is compiled under it. -/
theorem holds_of_assigned (h : ofConfiguration t directory c = .ok s) {source : String}
    (ha : Assigned t directory c name source) : s.Holds name source := by
  rcases find?_ofConfiguration h name with ⟨hn, -⟩ | ⟨source', ha', hh⟩
  · exact absurd ha (hn source)
  · exact assigned_unique h ha' ha ▸ hh

theorem find?_of_not_assigned (h : ofConfiguration t directory c = .ok s)
    (hn : ∀ source, ¬ Assigned t directory c name source) : s.find? name = none := by
  rcases find?_ofConfiguration h name with ⟨-, hf⟩ | ⟨source, ha, -⟩
  · exact hf
  · exact absurd ha (hn source)

end
end TemplateSet
end ApiScribe
