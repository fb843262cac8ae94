import ApiScribe.Generation.Resolve
import ApiScribe.Proofs.Registry

/-!
# What replaces an identifier

A resolution asks for the replacement of an identifier by the name it is registered under.  The
question is therefore what else can have that name.  Wrappers and templates of filenames cannot,
since their names end differently; a template file can, since its path is its name.

`Sources.assigned_renameName` is this case analysis; with something under the name the text of that
takes the place of the identifier (`rename_of_holds`), and otherwise the identifier stays.
-/

namespace ApiScribe

variable {t : FileTree} {directory : Path} {c : Configuration} {s : TemplateSet}

/-- What has the name of an identifier's replacement is a rename of that identifier, the first one,
or a template file. -/
theorem Sources.assigned_renameName {identifier source : String}
    (h : Assigned t directory c (Renderer.renameName identifier) source) :
    (∃ rule, c.renames.find? (·.source == identifier) = some rule ∧ rule.replacement = source) ∨
      ∃ template ∈ c.templateFiles, template.templatePath = Renderer.renameName identifier ∧
        readTemplate t directory template.templatePath = .ok source := by
  generalize hname : Renderer.renameName identifier = name at h
  cases h with
  -- names of wrappers are reserved, and those of filenames have another ending
  | array =>
    have hr : Renderer.arrayName ∈ reserved := by decide
    exact absurd (hname ▸ hr) (Renderer.renameName_not_reserved identifier)
  | optional =>
    have hr : Renderer.optionalName ∈ reserved := by decide
    exact absurd (hname ▸ hr) (Renderer.renameName_not_reserved identifier)
  | content hm hr => exact .inr ⟨_, hm, rfl, hr⟩
  | filename => exact absurd hname (Renderer.renameName_ne_filenameName identifier _)
  | replacement hr =>
    obtain rfl := Renderer.renameName_injective hname
    exact .inl ⟨_, hr, rfl⟩

namespace TemplateSet

/-- The text of the template of a name, or the report of its failure. -/
def textFor (s : TemplateSet) (name : String) (data : Data) (memory : Template.Memory) :
    Except ResolveError String :=
  match (Template.render s.find? name data memory).1 with
  | .ok rendered => .ok rendered.text
  | .error fault => .error (.renderFailed name fault.text)

/-- With something under the name of its replacement, an identifier becomes the text of that. -/
theorem rename_of_holds {identifier source : String}
    (h : s.Holds (Renderer.renameName identifier) source) (owner : Names)
    (memory : Template.Memory) :
    (Resolver.rename ⟨c, s.renderer⟩ identifier owner memory).outcome =
      s.textFor (Renderer.renameName identifier) owner.toData memory := by
  obtain ⟨template, -, hf⟩ := h
  have hhas : s.renderer.has (Renderer.renameName identifier) = true := by
    show (s.find? (Renderer.renameName identifier)).isSome = true
    rw [hf]
    rfl
  have hrender : s.renderer.render (Renderer.renameName identifier) owner.toData memory =
      ((Template.render s.find? (Renderer.renameName identifier) owner.toData memory).1.mapError
          fun fault => .renderFailed (Renderer.renameName identifier) fault.text,
        (Template.render s.find? (Renderer.renameName identifier) owner.toData memory).2) :=
    render_of_find? hf owner.toData memory
  unfold Resolver.rename Resolver.textOf Renderer.ask Renderer.run textFor
  simp only [bind, Run.andThen, hhas, if_true, hrender]
  cases (Template.render s.find? (Renderer.renameName identifier) owner.toData memory).1 <;> rfl

/-- Without anything under the name of its replacement, an identifier stays. -/
theorem rename_of_find?_eq_none {identifier : String}
    (h : s.find? (Renderer.renameName identifier) = none) (owner : Names)
    (memory : Template.Memory) :
    (Resolver.rename ⟨c, s.renderer⟩ identifier owner memory).outcome = .ok identifier := by
  have hhas : s.renderer.has (Renderer.renameName identifier) = false := by
    show (s.find? (Renderer.renameName identifier)).isSome = false
    rw [h]
    rfl
  unfold Resolver.rename Renderer.ask
  simp only [bind, Run.andThen, hhas]
  rfl

/-- What a resolution makes of an identifier, for every configuration that has a set of templates.

The first rename of the identifier decides, if there is one: its replacement is rendered for the
names of the owner.  Otherwise the identifier stays as it is, unless a template file has the name
under which a replacement would be registered.  Then the text of that file takes its place. -/
theorem rename_characterized (h : ofConfiguration t directory c = .ok s) (identifier : String)
    (owner : Names) (memory : Template.Memory) :
    (∀ rule, c.renames.find? (·.source == identifier) = some rule →
      s.Holds (Renderer.renameName identifier) rule.replacement ∧
      (Resolver.rename ⟨c, s.renderer⟩ identifier owner memory).outcome =
        s.textFor (Renderer.renameName identifier) owner.toData memory) ∧
    (c.renames.find? (·.source == identifier) = none →
      ((∀ template ∈ c.templateFiles, template.templatePath ≠ Renderer.renameName identifier) →
        (Resolver.rename ⟨c, s.renderer⟩ identifier owner memory).outcome = .ok identifier) ∧
      ∀ template ∈ c.templateFiles, template.templatePath = Renderer.renameName identifier →
        ∃ content, Sources.readTemplate t directory template.templatePath = .ok content ∧
          s.Holds (Renderer.renameName identifier) content ∧
          (Resolver.rename ⟨c, s.renderer⟩ identifier owner memory).outcome =
            s.textFor (Renderer.renameName identifier) owner.toData memory) := by
  refine ⟨?_, ?_⟩
  · intro rule hrule
    have hsource : rule.source = identifier := by
      simpa using List.find?_some hrule
    subst hsource
    have hh := holds_of_assigned h (.replacement hrule)
    exact ⟨hh, rename_of_holds hh owner memory⟩
  · intro hnone
    refine ⟨?_, ?_⟩
    · intro hfiles
      apply rename_of_find?_eq_none
      apply find?_of_not_assigned h
      intro source ha
      rcases Sources.assigned_renameName ha with ⟨rule, hrule, -⟩ | ⟨template, ht, hp, -⟩
      · rw [hnone] at hrule
        cases hrule
      · exact hfiles template ht hp
    · intro template ht hp
      obtain ⟨content, hcontent⟩ := exists_readTemplate h ht
      have hh := holds_of_assigned h (.content ht hcontent)
      rw [hp] at hh
      exact ⟨content, hcontent, hh, rename_of_holds hh owner memory⟩

/-- A configuration with two renames of `id`, none of `type`, and a template file that has the name
of a replacement for `type`. -/
def renamingSample : Configuration where
  integerType := "Int"
  stringType := "Text"
  booleanType := "Bool"
  arrayType := "List"
  optionalType := "Option"
  renames := [⟨"id", "key"⟩, ⟨"id", "number"⟩]
  templateFiles := [⟨"type_rename", "out", "FOR_ALL_DTOS"⟩]

/-- The files of that configuration; the text of the template file is `kind`. -/
def renamingFiles : FileTree := .directory [("type_rename", .file [107, 105, 110, 100])]

/-- The first rename of `id` counts, `name` stays, and the text of the template file takes the
place of `type`, although nothing renames it. -/
theorem rename_characterized_sample :
    ∃ s, ofConfiguration renamingFiles ⟨0, []⟩ renamingSample = .ok s ∧
      (Resolver.rename ⟨renamingSample, s.renderer⟩ "id" (Names.of "User") {}).outcome =
        .ok "key" ∧
      (Resolver.rename ⟨renamingSample, s.renderer⟩ "name" (Names.of "User") {}).outcome =
        .ok "name" ∧
      (Resolver.rename ⟨renamingSample, s.renderer⟩ "type" (Names.of "User") {}).outcome =
        .ok "kind" := by
  have hbuilt : (ofConfiguration renamingFiles ⟨0, []⟩ renamingSample).toOption.map (fun s =>
      ((s.textFor "id_rename" (Names.of "User").toData {}).toOption,
        (s.textFor "type_rename" (Names.of "User").toData {}).toOption)) =
      some (some "key", some "kind") := by
    decide +kernel
  obtain ⟨s, hs, htexts⟩ := Option.map_eq_some_iff.1 hbuilt
  rw [Outcome.toOption_eq_some] at hs
  rw [Prod.mk.injEq, Outcome.toOption_eq_some, Outcome.toOption_eq_some] at htexts
  refine ⟨s, hs, ?_, ?_, ?_⟩
  · rw [((rename_characterized hs "id" (Names.of "User") {}).1 ⟨"id", "key"⟩ (by decide)).2]
    exact htexts.1
  · exact ((rename_characterized hs "name" (Names.of "User") {}).2 (by decide)).1 (by decide)
  · obtain ⟨content, -, -, ho⟩ := ((rename_characterized hs "type" (Names.of "User") {}).2
      (by decide)).2 ⟨"type_rename", "out", "FOR_ALL_DTOS"⟩ (by decide) (by decide)
    rw [ho]
    exact htexts.2

end TemplateSet
end ApiScribe
