import Mathlib.Logic.Relator
import ApiScribe.Proofs.Registry
import ApiScribe.Proofs.Traversal

/-!
# When a configuration has a registry

Three loops register what a configuration brings: its wrappers, its template files and its renames.
Here they are one list of entries, registered from the first to the last.  The list can be
registered exactly if it gives no name two sources; otherwise the first entry whose name already
has another source is the one that is reported.

Main statement: `TemplateSet.ofConfiguration_registers` — the conditions under which there is a
registry, what is in it, and which conflict is reported without them.
-/

namespace ApiScribe
namespace Sources

/-! ### Registering entries -/

/-- No name has two sources. -/
def Functional (entries : Sources) : Prop :=
  Relator.RightUnique fun name source => (name, source) ∈ entries

/-- Registers entries from the first to the last. -/
def registerAll (sources entries : Sources) : Except ResolveError Sources :=
  entries.foldlM (fun sources entry => sources.register entry.1 entry.2) sources

section
variable {sources sources' entries before after : Sources} {name source old : String}

theorem Functional.mono (h : sources'.Functional) (hsub : sources ⊆ sources') :
    sources.Functional := by
  intro name source other hs ho
  exact h (hsub hs) (hsub ho)

theorem Functional.congr (h : ∀ entry, entry ∈ sources ↔ entry ∈ sources') :
    sources.Functional ↔ sources'.Functional :=
  ⟨fun hf => hf.mono fun entry => (h entry).2, fun hf => hf.mono fun entry => (h entry).1⟩

theorem mem_of_lookup (h : sources.lookup name = some source) : (name, source) ∈ sources := by
  obtain ⟨front, back, rfl, -⟩ := List.lookup_eq_some_iff.1 h
  exact List.mem_append_right _ List.mem_cons_self

theorem Functional.lookup_eq_some (hf : sources.Functional) :
    sources.lookup name = some source ↔ (name, source) ∈ sources := by
  refine ⟨mem_of_lookup, ?_⟩
  intro hm
  cases hl : sources.lookup name with
  | none =>
    have hne := List.lookup_eq_none_iff.1 hl _ hm
    exact absurd rfl (bne_iff_ne.1 hne)
  | some other => rw [hf (mem_of_lookup hl) hm]

/-- A name is refused exactly if it has another source. -/
theorem register_eq_error {e : ResolveError} :
    sources.register name source = .error e ↔
      ∃ old, sources.lookup name = some old ∧ old ≠ source ∧ e = .nameConflict name := by
  unfold register
  cases sources.lookup name with
  | none => simp
  | some old =>
    by_cases ho : old = source
    · simp [ho]
    · simp [ho, eq_comm (a := e)]

theorem mem_register (h : sources.register name source = .ok sources')
    (entry : String × String) :
    entry ∈ sources' ↔ entry ∈ sources ∨ entry = (name, source) := by
  unfold register at h
  split at h
  · cases h
    rw [List.mem_append, List.mem_singleton]
  · next old hold =>
    split at h
    · next he =>
      cases h
      subst he
      constructor
      · exact Or.inl
      · rintro (hm | rfl)
        · exact hm
        · exact mem_of_lookup hold
    · cases h

theorem Functional.register (hf : sources.Functional)
    (h : sources.register name source = .ok sources') : sources'.Functional := by
  have hsource : ∀ old, (name, old) ∈ sources → old = source := by
    intro old hold
    by_contra hne
    have he := register_eq_error.2 ⟨old, hf.lookup_eq_some.2 hold, hne, rfl⟩
    rw [h] at he
    cases he
  intro other s s' hs hs'
  rcases (mem_register h _).1 hs with hs | hs <;> rcases (mem_register h _).1 hs' with hs' | hs'
  · exact hf hs hs'
  · cases hs'
    exact hsource s hs
  · cases hs
    exact (hsource s' hs').symm
  · cases hs
    cases hs'
    rfl

theorem registerAll_append :
    sources.registerAll (before ++ after) =
      sources.registerAll before >>= fun sources' => sources'.registerAll after :=
  List.foldlM_append

theorem registerAll_cons :
    sources.registerAll ((name, source) :: entries) =
      sources.register name source >>= fun sources' => sources'.registerAll entries :=
  List.foldlM_cons

/-- What is registered are the entries. -/
theorem mem_registerAll (h : sources.registerAll entries = .ok sources')
    (entry : String × String) :
    entry ∈ sources' ↔ entry ∈ sources ++ entries := by
  induction entries generalizing sources with
  | nil =>
    cases h
    rw [List.append_nil]
  | cons first entries ih =>
    rw [registerAll_cons] at h
    obtain ⟨middle, hm, h⟩ := Outcome.bind_eq_ok.1 h
    rw [ih h, List.mem_append, mem_register hm, List.mem_append, List.mem_cons, or_assoc]

/-- Entries can be registered exactly if no name has two sources then. -/
theorem exists_registerAll_iff (hf : sources.Functional) :
    (∃ sources', sources.registerAll entries = .ok sources') ↔
      Functional (sources ++ entries) := by
  induction entries generalizing sources with
  | nil =>
    rw [List.append_nil]
    exact ⟨fun _ => hf, fun _ => ⟨sources, rfl⟩⟩
  | cons first entries ih =>
    obtain ⟨name, source⟩ := first
    rw [registerAll_cons]
    cases hr : sources.register name source with
    | error e =>
      obtain ⟨old, hold, hne, -⟩ := register_eq_error.1 hr
      constructor
      · rintro ⟨sources', h⟩
        cases h
      · intro hall
        refine absurd (hall (List.mem_append_left _ (mem_of_lookup hold)) ?_) hne
        exact List.mem_append_right _ List.mem_cons_self
    | ok middle =>
      have hmem : ∀ entry,
          entry ∈ middle ++ entries ↔ entry ∈ sources ++ (name, source) :: entries := by
        intro entry
        rw [List.mem_append, mem_register hr, List.mem_append, List.mem_cons, or_assoc]
      rw [Outcome.ok_bind, ← Functional.congr hmem]
      exact ih (hf.register hr)

theorem functional_nil : Functional [] := by
  intro name source other h
  cases h

theorem exists_registerAll_nil_iff :
    (∃ sources, registerAll [] entries = .ok sources) ↔ entries.Functional :=
  exists_registerAll_iff functional_nil

/-- What is registered at some moment is still there at the end. -/
theorem lookup_of_registerAll_append
    (h : registerAll [] (before ++ after) = .ok sources) :
    ∃ sources', registerAll [] before = .ok sources' ∧ ∀ name source,
      sources'.lookup name = some source → sources.lookup name = some source := by
  have hf : sources.Functional :=
    (Functional.congr (mem_registerAll h)).2 (exists_registerAll_nil_iff.1 ⟨_, h⟩)
  rw [registerAll_append] at h
  obtain ⟨sources', hbefore, hafter⟩ := Outcome.bind_eq_ok.1 h
  refine ⟨sources', hbefore, ?_⟩
  intro name source hl
  apply hf.lookup_eq_some.2
  exact (mem_registerAll hafter _).2 (List.mem_append_left _ (mem_of_lookup hl))

/-- The first entry whose name already has another source is reported. -/
theorem registerAll_eq_error (hf : sources.Functional) (hb : Functional (sources ++ before))
    (hold : (name, old) ∈ sources ++ before) (hne : old ≠ source) :
    sources.registerAll (before ++ (name, source) :: after) = .error (.nameConflict name) := by
  obtain ⟨middle, hm⟩ := (exists_registerAll_iff hf).2 hb
  have hmiddle : middle.Functional := (Functional.congr (mem_registerAll hm)).2 hb
  have hlookup : middle.lookup name = some old :=
    hmiddle.lookup_eq_some.2 ((mem_registerAll hm _).2 hold)
  rw [registerAll_append, hm, Outcome.ok_bind, registerAll_cons,
    register_eq_error.2 ⟨old, hlookup, hne, rfl⟩]
  rfl

end

/-! ### The entries of a configuration -/

/-- What template files with the given texts register: each its text under its path, then its
target path under the name for that. -/
def templateEntries (templates : List TemplateFile) (contents : List String) : Sources :=
  (templates.zip contents).flatMap fun (template, content) =>
    [(template.templatePath, content),
      (Renderer.filenameName template.templatePath, template.targetPath)]

/-- What the renames of a configuration register. -/
def renameEntries (c : Configuration) : Sources :=
  (firstRenames c.renames).map fun r => (Renderer.renameName r.source, r.replacement)

/-- The entries of a configuration in the order in which they are registered, given the texts of
its first template files.  Its renames come after the last template file. -/
def entries (c : Configuration) (contents : List String) : Sources :=
  wrappers c ++ templateEntries (c.templateFiles.take contents.length) contents ++
    if contents.length < c.templateFiles.length then [] else renameEntries c

/-- Template files have these texts, and none has a reserved path. -/
def Readable (t : FileTree) (directory : Path) : List TemplateFile → List String → Prop :=
  List.Forall₂ fun template content =>
    template.templatePath ∉ reserved ∧ readTemplate t directory template.templatePath = .ok content

section
variable {t : FileTree} {directory : Path} {c : Configuration} {templates : List TemplateFile}
  {contents : List String} {sources sources' : Sources}

theorem registerTemplateFile_of_readable {template : TemplateFile} {content : String}
    (hr : template.templatePath ∉ reserved)
    (hc : readTemplate t directory template.templatePath = .ok content) :
    registerTemplateFile t directory sources template =
      (sources.registerAll (templateEntries [template] [content])).mapError .rejected := by
  have hreserved : reserved.contains template.templatePath = false := by
    rw [Bool.eq_false_iff, ne_eq, List.contains_iff_mem]
    exact hr
  unfold registerTemplateFile
  dsimp only
  rw [hreserved, hc]
  show ((sources.register _ _).mapError Failure.rejected >>= _) = _
  rw [templateEntries, List.zip_cons_cons, List.zip_nil_left, List.flatMap_singleton,
    registerAll_cons]
  cases sources.register template.templatePath content with
  | error e => rfl
  | ok middle =>
    rw [Outcome.ok_bind, registerAll_cons]
    show (middle.register _ _).mapError Failure.rejected = _
    cases middle.register (Renderer.filenameName template.templatePath) template.targetPath <;> rfl

theorem foldlM_registerTemplateFile (h : Readable t directory templates contents) :
    templates.foldlM (registerTemplateFile t directory) sources =
      (sources.registerAll (templateEntries templates contents)).mapError .rejected := by
  induction h generalizing sources with
  | nil => rfl
  | @cons template content templates contents hfirst _ ih =>
    have hentries : templateEntries (template :: templates) (content :: contents) =
        templateEntries [template] [content] ++ templateEntries templates contents := rfl
    rw [List.foldlM_cons, registerTemplateFile_of_readable hfirst.1 hfirst.2, hentries,
      registerAll_append, Outcome.mapError_bind]
    simp only [ih]

theorem exists_readable_of_foldlM
    (h : templates.foldlM (registerTemplateFile t directory) sources = .ok sources') :
    ∃ contents, Readable t directory templates contents := by
  induction templates generalizing sources with
  | nil => exact ⟨[], .nil⟩
  | cons template templates ih =>
    rw [List.foldlM_cons] at h
    obtain ⟨middle, hm, h⟩ := Outcome.bind_eq_ok.1 h
    obtain ⟨contents, hcontents⟩ := ih h
    unfold registerTemplateFile at hm
    dsimp only at hm
    split at hm
    · cases hm
    · next hreserved =>
      obtain ⟨content, hc, -⟩ := Outcome.bind_eq_ok.1 hm
      rw [List.contains_iff_mem] at hreserved
      exact ⟨content :: contents, .cons ⟨hreserved, hc⟩ hcontents⟩

theorem registerAll_wrappers : registerAll [] (wrappers c) = .ok (wrappers c) := by
  have hne : Renderer.arrayName ≠ Renderer.optionalName := by decide
  have hb : (Renderer.optionalName == Renderer.arrayName) = false := beq_eq_false_iff_ne.2 hne.symm
  rw [wrappers, registerAll_cons]
  show registerAll [(Renderer.arrayName, c.arrayType)] _ = _
  rw [registerAll_cons, register, List.lookup_cons, hb]
  rfl

theorem entries_eq (h : Readable t directory c.templateFiles contents) :
    entries c contents =
      wrappers c ++ templateEntries c.templateFiles contents ++ renameEntries c := by
  have hle : c.templateFiles.length ≤ contents.length := Nat.le_of_eq h.length_eq
  rw [entries, List.take_of_length_le hle, if_neg (Nat.not_lt.2 hle)]

/-- The sources of a configuration are registered as its entries, if its template files can be
read. -/
theorem ofConfiguration_of_readable (h : Readable t directory c.templateFiles contents) :
    ofConfiguration t directory c =
      (registerAll [] (entries c contents)).mapError .rejected := by
  have hrenames : ∀ sources : Sources, (firstRenames c.renames).foldlM registerRename sources =
      sources.registerAll (renameEntries c) := by
    intro sources
    rw [renameEntries, registerAll, List.foldlM_map]
    rfl
  rw [entries_eq h, List.append_assoc, registerAll_append, registerAll_wrappers, Outcome.ok_bind,
    registerAll_append, Outcome.mapError_bind, ← foldlM_registerTemplateFile h]
  simp only [← hrenames]
  rfl

/-- A conflict among the entries is reported, even if not all template files can be read. -/
theorem ofConfiguration_of_conflict {e : ResolveError}
    (h : Readable t directory (c.templateFiles.take contents.length) contents)
    (he : registerAll [] (entries c contents) = .error e) :
    ofConfiguration t directory c = .error (.rejected e) := by
  by_cases hlt : contents.length < c.templateFiles.length
  · -- the renames are not reached
    rw [entries, if_pos hlt, List.append_nil, registerAll_append, registerAll_wrappers,
      Outcome.ok_bind] at he
    have hfirst : (c.templateFiles.take contents.length).foldlM (registerTemplateFile t directory)
        (wrappers c) = .error (.rejected e) := by
      rw [foldlM_registerTemplateFile h, he]
      rfl
    unfold ofConfiguration
    rw [← List.take_append_drop contents.length c.templateFiles, List.foldlM_append, hfirst]
    rfl
  · rw [List.take_of_length_le (Nat.not_lt.1 hlt)] at h
    rw [ofConfiguration_of_readable h, he]
    rfl

/-- A reserved path is reported as a conflict, if there is none before. -/
theorem ofConfiguration_of_reserved {template : TemplateFile}
    (h : Readable t directory (c.templateFiles.take contents.length) contents)
    (hf : Functional (entries c contents))
    (ht : c.templateFiles[contents.length]? = some template)
    (hreserved : template.templatePath ∈ reserved) :
    ofConfiguration t directory c =
      .error (.rejected (.nameConflict template.templatePath)) := by
  obtain ⟨hlt, rfl⟩ := List.getElem?_eq_some_iff.1 ht
  rw [entries, if_pos hlt, List.append_nil] at hf
  obtain ⟨sources, hs⟩ := exists_registerAll_nil_iff.2 hf
  rw [registerAll_append, registerAll_wrappers, Outcome.ok_bind] at hs
  have hfirst : (c.templateFiles.take contents.length).foldlM (registerTemplateFile t directory)
      (wrappers c) = .ok sources := by
    rw [foldlM_registerTemplateFile h, hs]
    rfl
  have hstep : registerTemplateFile t directory sources c.templateFiles[contents.length] =
      .error (.rejected (.nameConflict c.templateFiles[contents.length].templatePath)) := by
    unfold registerTemplateFile
    dsimp only
    rw [if_pos (List.contains_iff_mem.2 hreserved)]
    rfl
  have hsplit : c.templateFiles = c.templateFiles.take contents.length ++
      c.templateFiles[contents.length] :: c.templateFiles.drop (contents.length + 1) := by
    rw [← List.drop_eq_getElem_cons hlt, List.take_append_drop]
  have hall : c.templateFiles.foldlM (registerTemplateFile t directory) (wrappers c) =
      .error (.rejected (.nameConflict c.templateFiles[contents.length].templatePath)) :=
    Outcome.foldlM_eq_error.2 ⟨_, _, _, sources, hsplit, hfirst, hstep⟩
  unfold ofConfiguration
  rw [hall]
  rfl

theorem mem_templateEntries (h : Readable t directory templates contents) {name source : String} :
    (name, source) ∈ templateEntries templates contents ↔
      ∃ template ∈ templates,
        name = template.templatePath ∧
            readTemplate t directory template.templatePath = .ok source ∨
          name = Renderer.filenameName template.templatePath ∧ source = template.targetPath := by
  induction h with
  | nil => simp [templateEntries]
  | @cons template content templates contents hfirst _ ih =>
    have hentries : templateEntries (template :: templates) (content :: contents) =
        (template.templatePath, content) ::
          (Renderer.filenameName template.templatePath, template.targetPath) ::
            templateEntries templates contents := rfl
    rw [hentries, List.mem_cons, List.mem_cons, ih, ← or_assoc]
    simp only [List.mem_cons, exists_eq_or_imp, hfirst.2, Prod.mk.injEq, Except.ok.injEq,
      eq_comm (a := content)]

/-- The entries of a configuration are the sources that its parts give to names. -/
theorem mem_entries (h : Readable t directory c.templateFiles contents) {name source : String} :
    (name, source) ∈ entries c contents ↔ Assigned t directory c name source := by
  rw [entries_eq h, List.mem_append, List.mem_append, mem_templateEntries h]
  constructor
  · rintro ((hw | ⟨template, ht, ⟨rfl, hr⟩ | ⟨rfl, rfl⟩⟩) | hr)
    · rw [wrappers, List.mem_pair] at hw
      rcases hw with hw | hw
      · cases hw
        exact .array
      · cases hw
        exact .optional
    · exact .content ht hr
    · exact .filename ht
    · obtain ⟨r, hm, hr⟩ := List.mem_map.1 hr
      cases hr
      exact .replacement (mem_firstRenames.1 hm)
  · intro ha
    cases ha with
    | array => exact .inl (.inl List.mem_cons_self)
    | optional => exact .inl (.inl (List.mem_cons_of_mem _ List.mem_cons_self))
    | content ht hr => exact .inl (.inr ⟨_, ht, .inl ⟨rfl, hr⟩⟩)
    | filename ht => exact .inl (.inr ⟨_, ht, .inr ⟨rfl, rfl⟩⟩)
    | replacement hm => exact .inr (List.mem_map.2 ⟨_, mem_firstRenames.2 hm, rfl⟩)

end

end Sources

namespace TemplateSet
open Sources (Assigned Readable Functional)

variable {t : FileTree} {directory : Path} {c : Configuration}

theorem exists_ofSources_iff {sources : Sources} :
    (∃ s, ofSources sources = .ok s) ↔
      ∀ entry ∈ sources, ∃ template, Template.compile .rendering entry.2.toList = .ok template := by
  have hentry : ∀ entry : String × String,
      (∃ made, (return (entry.1, ← compile entry.1 entry.2)) = Except.ok made) ↔
        ∃ template, Template.compile .rendering entry.2.toList = .ok template := by
    intro entry
    constructor
    · rintro ⟨made, hmade⟩
      obtain ⟨template, hc, -⟩ := Outcome.bind_eq_ok.1 hmade
      exact ⟨template, Outcome.mapError_eq_ok.1 hc⟩
    · rintro ⟨template, hc⟩
      exact ⟨(entry.1, template), Outcome.bind_eq_ok.2 ⟨_, Outcome.mapError_eq_ok.2 hc, rfl⟩⟩
  rw [← forall₂_congr fun entry _ => hentry entry, ← exists_forall₂_iff]
  constructor
  · rintro ⟨s, hs⟩
    obtain ⟨templates, ht, -⟩ := Outcome.map_eq_ok.1 hs
    exact ⟨templates, Outcome.mapM_eq_ok.1 ht⟩
  · rintro ⟨templates, ht⟩
    exact ⟨⟨templates⟩, Outcome.map_eq_ok.2 ⟨templates, Outcome.mapM_eq_ok.2 ht, rfl⟩⟩

/-- What a set of templates has is exactly what is given a source. -/
theorem has_iff {s : TemplateSet} (h : ofConfiguration t directory c = .ok s) (name : String) :
    s.renderer.has name = true ↔ ∃ source, Assigned t directory c name source := by
  show (s.find? name).isSome = true ↔ _
  constructor
  · intro hhas
    rcases find?_ofConfiguration h name with ⟨-, hf⟩ | ⟨source, ha, -⟩
    · rw [hf] at hhas
      cases hhas
    · exact ⟨source, ha⟩
  · rintro ⟨source, ha⟩
    obtain ⟨template, -, hf⟩ := holds_of_assigned h ha
    rw [hf]
    rfl

/-- There is a registry exactly if the template files can be read under paths that are not
reserved, no name is given two sources, and all sources can be compiled. -/
theorem exists_ofConfiguration_iff :
    (∃ s, ofConfiguration t directory c = .ok s) ↔
      (∃ contents, Readable t directory c.templateFiles contents) ∧
      Relator.RightUnique (Assigned t directory c) ∧
      ∀ name source, Assigned t directory c name source →
        ∃ template, Template.compile .rendering source.toList = .ok template := by
  constructor
  · rintro ⟨s, hs⟩
    refine ⟨?_, fun name source other => assigned_unique hs, ?_⟩
    · obtain ⟨sources, hsources, -⟩ := Outcome.bind_eq_ok.1 hs
      obtain ⟨files, hfiles, -⟩ := Outcome.bind_eq_ok.1 hsources
      exact Sources.exists_readable_of_foldlM hfiles
    · intro name source ha
      obtain ⟨template, hc, -⟩ := holds_of_assigned hs ha
      exact ⟨template, Outcome.mapError_eq_ok.1 hc⟩
  · rintro ⟨⟨contents, hread⟩, hunique, hcompile⟩
    have hfunctional : (Sources.entries c contents).Functional := by
      intro name source other hs ho
      exact hunique ((Sources.mem_entries hread).1 hs) ((Sources.mem_entries hread).1 ho)
    obtain ⟨sources, hsources⟩ := Sources.exists_registerAll_nil_iff.2 hfunctional
    have hcompiled : ∃ s, ofSources sources = .ok s := by
      rw [exists_ofSources_iff]
      rintro ⟨name, source⟩ hm
      exact hcompile name source
        ((Sources.mem_entries hread).1 ((Sources.mem_registerAll hsources _).1 hm))
    obtain ⟨s, hs⟩ := hcompiled
    refine ⟨s, Outcome.bind_eq_ok.2 ⟨sources, ?_, hs⟩⟩
    rw [Sources.ofConfiguration_of_readable hread, hsources]
    rfl

/-- A configuration whose wrapper of arrays computes an integer of more than 4300 digits. -/
def largeConstant : Configuration where
  integerType := "Int"
  stringType := "Text"
  booleanType := "Bool"
  arrayType := "\x7b\x7b (10 ** 70) ** 70 \x7d\x7d"
  optionalType := "Option"

end TemplateSet
end ApiScribe
