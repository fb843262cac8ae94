import ApiScribe.Generation.Wrapper
import ApiScribe.Proofs.LastLineEnd.Template
import ApiScribe.Proofs.Lookups.Checked
import ApiScribe.Proofs.Placeholder
import ApiScribe.Proofs.WithoutRegistry

/-!
# Wrappers find the names they look up

A wrapper is checked as a template for inspection and used as one for rendering.  Both mention the
same names, so what the check finds is what the rendering looks up: the placeholder and names that
every template knows.  A wrapper that is accepted and refers to no other template therefore renders
alike wherever it is used, even where every further name has a value
(`Resolver.accepted_wrappers_find_names`).

This is about names that are looked up in what a template is given.  A variable that a wrapper sets
itself can still be read where it has no value (`Resolver.accepted_wrappers_read_unset`).
-/

namespace ApiScribe

namespace Template

/-- What a template looks up when it is rendered, its inspection has found: each name is needed, or
every template knows it. -/
theorem mem_needed_of_mem_lookups {source : List Char} {rendered inspected : Compiled}
    (hrendered : compile .rendering source = .ok rendered)
    (hinspected : compile .inspection source = .ok inspected) (hclosed : rendered.IsClosed)
    {n : String} (hn : n ∈ rendered.lookups) : n ∈ inspected.needed ∨ n ∈ globalNames := by
  obtain ⟨body', hparse', h'⟩ := exists_isOf_of_compile hrendered
  obtain ⟨body, hparse, h⟩ := exists_isOf_of_compile hinspected
  have halike : Alike body body' := alike_of_parse hparse hparse'
  have hbody : IsClosedTemplate body := halike.isClosedTemplate_iff.1 (h'.closed.1 hclosed)
  rw [h'.lookups, halike.templateLookups_eq] at hn
  exact h.found hbody n hn

end Template

open Template (Globals globalNames valueData)
open Template.Eval (function? Gives)

namespace Wrapper

/-- A wrapper without a problem is well formed, and needs the placeholder at most. -/
theorem exists_compile_of_problem? {key source : String} (h : problem? key source = .ok none) :
    ∃ template, Template.compile .inspection source.toList = .ok template ∧
      ∀ n ∈ template.needed, n = valueName := by
  unfold problem? at h
  split at h
  · cases h
  · cases h
  · next template hcompile =>
    refine ⟨template, hcompile, fun n hn => ?_⟩
    split at h
    · next hsorted =>
      by_contra hne
      have hmem : n ∈ sorted (template.needed.filter (· != valueName)) :=
        List.mem_mergeSort.2 (List.mem_filter.2 ⟨hn, bne_iff_ne.2 hne⟩)
      rw [hsorted] at hmem
      cases hmem
    · cases h

end Wrapper

/-- In a configuration whose wrappers have no problem neither of them has one. -/
theorem Configuration.problem?_of_wrapperProblems {c : Configuration}
    (h : c.wrapperProblems = .ok []) :
    Wrapper.problem? "array_type" c.arrayType = .ok none ∧
      Wrapper.problem? "optional_type" c.optionalType = .ok none := by
  obtain ⟨array, harray, h⟩ := Outcome.bind_eq_ok.1 h
  obtain ⟨optional, hoptional, h⟩ := Outcome.bind_eq_ok.1 h
  cases array with
  | some problem => cases h
  | none =>
    cases optional with
    | some problem => cases h
    | none => exact ⟨harray, hoptional⟩

namespace Run

variable {α β : Type}

/-- Two runs that start without memory do the same and end without memory. -/
structure SameAtFirst (x y : Run Template.Memory α) : Prop where
  same : x {} = y {}
  memory : (y {}).memory = {}

theorem sameAtFirst_done (a : α) : (done a).SameAtFirst (done a) := ⟨rfl, rfl⟩

theorem SameAtFirst.andThen {x y : Run Template.Memory α} {f g : α → Run Template.Memory β}
    (hx : x.SameAtFirst y) (hf : ∀ a, (f a).SameAtFirst (g a)) :
    (x.andThen f).SameAtFirst (y.andThen g) := by
  obtain ⟨hxy, hmemory⟩ := hx
  cases hrun : y {} with
  | mk calls outcome memory =>
    rw [hrun] at hxy hmemory
    cases hmemory
    cases outcome with
    | error e =>
      have he := andThen_of_error hrun g
      exact ⟨(andThen_of_error hxy f).trans he.symm, by rw [he]⟩
    | ok a =>
      obtain ⟨hfg, hmemory⟩ := hf a
      have he := andThen_of_ok hrun g
      refine ⟨?_, by rw [he]; exact hmemory⟩
      rw [he, andThen_of_ok hxy f, hfg]

end Run

namespace TemplateSet

variable {s : TemplateSet} {name source : String}

/-- The template of an accepted wrapper that refers to no other looks up the placeholder and names
that every template knows. -/
theorem exists_lookups_of_problem? {key : String} (h : s.Holds name source)
    (hproblem : Wrapper.problem? key source = .ok none)
    (hclosed : ∀ template, s.find? name = some template → template.IsClosed) :
    ∃ template, s.find? name = some template ∧
      ∀ n ∈ template.lookups, n = Wrapper.valueName ∨ n ∈ globalNames := by
  obtain ⟨template, hcompile, hfind⟩ := h
  obtain ⟨inspected, hinspected, hneeded⟩ := Wrapper.exists_compile_of_problem? hproblem
  have hrendered : Template.compile .rendering source.toList = .ok template :=
    Outcome.mapError_eq_ok.1 hcompile
  refine ⟨template, hfind, fun n hn => ?_⟩
  have hfound := Template.mem_needed_of_mem_lookups hrendered hinspected (hclosed template hfind) hn
  exact hfound.imp_left (hneeded n)

variable {template : Template.Compiled} (hfind : s.find? name = some template)
  (hclosed : template.IsClosed)
  (hlookups : ∀ n ∈ template.lookups, n = Wrapper.valueName ∨ n ∈ globalNames)
  {globals : Globals} (hglobals : ∀ n ∈ globalNames, globals n = function? n)

include hfind hclosed hlookups hglobals

/-- Such a template renders the text of a type alike whatever further names have a value. -/
theorem renderIn_eq_of_lookups (inner : String) :
    s.renderIn globals name (valueData inner) {} = s.render name (valueData inner) {} ∧
      (s.render name (valueData inner) {}).2 = {} := by
  -- the placeholder is in the data, and all else is known in the same way
  let _ : Template.Known := ⟨(· ∈ globalNames), (· = Wrapper.valueName)⟩
  have hsafe : template.IsSafe := ⟨hclosed, fun n hn => (hlookups n hn).symm⟩
  have hgiven : Gives (Template.givenBy (valueData inner)) fun pairs =>
      ∀ n, Template.Known.given n → (pairs.lookup n).isSome := by
    rintro m h pairs h' - hpairs n rfl
    cases hpairs
    rfl
  obtain ⟨he, hm⟩ := Template.renderIn_eq hglobals hfind hfind hsafe hgiven
  rw [renderIn_of_find? hfind, render_of_find? hfind, he]
  exact ⟨rfl, hm⟩

theorem sameAtFirst_run (inner : String) :
    ((s.rendererIn globals).run name (valueData inner)).SameAtFirst
      (s.renderer.run name (valueData inner)) := by
  obtain ⟨he, hm⟩ := renderIn_eq_of_lookups hfind hclosed hlookups hglobals inner
  refine ⟨?_, hm⟩
  unfold Renderer.run
  exact congrArg (fun x => (⟨[.render name], x.1, x.2⟩ : Ran _ _)) he

end TemplateSet

namespace Resolver

variable {t : FileTree} {directory : Path} {c : Configuration} {s : TemplateSet}

/-- An accepted wrapper that refers to no other template looks up its placeholder and names that
every template knows, and nothing else.  So it renders alike, and all types have the same text, even
where every further name has a value: no rendering fails because a name that a wrapper looks up is
not known. -/
theorem accepted_wrappers_find_names (hset : TemplateSet.ofConfiguration t directory c = .ok s)
    (haccepted : c.wrapperProblems = .ok [])
    (hclosed : ∀ name ∈ Sources.reserved, ∀ template, s.find? name = some template →
      template.IsClosed)
    {globals : Globals} (hglobals : ∀ n ∈ globalNames, globals n = function? n) :
    (∀ name ∈ Sources.reserved,
      (∃ template, s.find? name = some template ∧
        ∀ n ∈ template.lookups, n = Wrapper.valueName ∨ n ∈ globalNames) ∧
      ∀ inner, s.renderIn globals name (valueData inner) {} = s.render name (valueData inner) {} ∧
        (s.render name (valueData inner) {}).2 = {}) ∧
    ∀ type, typeText ⟨c, s.rendererIn globals⟩ type {} = typeText ⟨c, s.renderer⟩ type {} := by
  obtain ⟨harray, hoptional⟩ := c.problem?_of_wrapperProblems haccepted
  have hwrapper : ∀ name ∈ Sources.reserved, ∃ template, s.find? name = some template ∧
      ∀ n ∈ template.lookups, n = Wrapper.valueName ∨ n ∈ globalNames := by
    intro name hname
    rcases List.mem_pair.1 hname with rfl | rfl
    · exact TemplateSet.exists_lookups_of_problem? (TemplateSet.holds_of_assigned hset .array)
        harray (hclosed _ hname)
    · exact TemplateSet.exists_lookups_of_problem? (TemplateSet.holds_of_assigned hset .optional)
        hoptional (hclosed _ hname)
  have hwrap (name : String) (hname : name ∈ Sources.reserved) (inner : String) :
      (wrap ⟨c, s.rendererIn globals⟩ name inner).SameAtFirst
        (wrap ⟨c, s.renderer⟩ name inner) := by
    obtain ⟨template, hfind, hlookups⟩ := hwrapper name hname
    exact (TemplateSet.sameAtFirst_run hfind (hclosed name hname _ hfind) hlookups hglobals
      inner).andThen fun _ => Run.sameAtFirst_done _
  refine ⟨fun name hname => ⟨hwrapper name hname, fun inner => ?_⟩, fun type => ?_⟩
  · obtain ⟨template, hfind, hlookups⟩ := hwrapper name hname
    exact TemplateSet.renderIn_eq_of_lookups hfind (hclosed name hname _ hfind) hlookups hglobals
      inner
  · have htype : (typeText ⟨c, s.rendererIn globals⟩ type).SameAtFirst
        (typeText ⟨c, s.renderer⟩ type) := by
      -- the text of the inner type is the data of the wrapper around it
      induction type with
      | array element ih => exact ih.andThen (hwrap _ List.mem_cons_self)
      | optional inner ih => exact ih.andThen (hwrap _ (by decide))
      | _ => exact Run.sameAtFirst_done _
    exact htype.same

/-- A configuration with a wrapper that loops and one that sets a variable. -/
def namesSample : Configuration where
  integerType := "Int"
  stringType := "Text"
  booleanType := "Bool"
  arrayType := "\x7b% for i in range(2) %\x7d\x7b\x7b value \x7d\x7d;\x7b% endfor %\x7d"
  optionalType := "\x7b% set x = value %\x7dOption<\x7b\x7b x \x7d\x7d>"
  renames := []
  templateFiles := []

/-- Where every name that is not known has a value, the wrappers of the sample give the same
text. -/
theorem accepted_wrappers_find_names_sample :
    ∃ s, TemplateSet.ofConfiguration (.directory []) ⟨0, []⟩ namesSample = .ok s ∧ s.IsClosed ∧
      (typeText ⟨namesSample, s.rendererIn fun n => (function? n).or (some (.text "unknown"))⟩
        (.optional (.array .integer)) {}).outcome = .ok "Option<Int;Int;>" := by
  have hbuilt : (TemplateSet.ofConfiguration (.directory []) ⟨0, []⟩ namesSample).toOption.map
      (fun s => decide s.IsClosed) = some true := by
    decide +kernel
  have hdirect : (TemplateSet.ofConfiguration (.directory []) ⟨0, []⟩ namesSample).toOption.map
      (fun s => (typeText ⟨namesSample, s.renderer⟩ (.optional (.array .integer)) {}).outcome) =
        some (.ok "Option<Int;Int;>") := by
    decide +kernel
  obtain ⟨s, hset, hclosed⟩ := Option.map_eq_some_iff.1 hbuilt
  rw [hset, Option.map_some, Option.some.injEq] at hdirect
  have hclosed := of_decide_eq_true hclosed
  have hsome : ∀ n ∈ globalNames, (function? n).isSome := by decide
  have hglobals : ∀ n ∈ globalNames, (function? n).or (some (.text "unknown")) = function? n :=
    fun n hn => Option.or_of_isSome (hsome n hn)
  obtain ⟨-, htypes⟩ := accepted_wrappers_find_names (Outcome.toOption_eq_some.1 hset)
    (Outcome.toOption_eq_some.1 (by decide +kernel)) (fun _ _ _ => hclosed.of_find?) hglobals
  exact ⟨s, Outcome.toOption_eq_some.1 hset, hclosed, by rw [htypes, hdirect]⟩

/-- A configuration with wrappers that read a variable where it has no value: the first one sets
it after the loop that reads it, and a macro of the second one is called after the loop that it is
written in. -/
def unsetSample : Configuration where
  integerType := "Int"
  stringType := "Text"
  booleanType := "Bool"
  arrayType := "\x7b% for i in [1] %\x7d\x7b\x7b x \x7d\x7d\x7b% endfor %\x7d" ++
    "\x7b% set x = value %\x7d"
  optionalType := "\x7b% set ns = namespace() %\x7d" ++
    "\x7b% for i in [1] %\x7d\x7b\x7b value \x7d\x7d" ++
    "\x7b% macro m() %\x7d\x7b\x7b value \x7d\x7d\x7b% endmacro %\x7d\x7b% set ns.f = m %\x7d" ++
    "\x7b% endfor %\x7d\x7b\x7b ns.f() \x7d\x7d"
  renames := []
  templateFiles := []

/-- Accepted wrappers that refer to no other template can fail for want of a variable: one that
they set themselves, and even the placeholder. -/
theorem accepted_wrappers_read_unset :
    unsetSample.wrapperProblems.toOption = some [] ∧
      (TemplateSet.ofConfiguration (.directory []) ⟨0, []⟩ unsetSample).toOption.map (fun s =>
        (decide s.IsClosed, (typeText ⟨unsetSample, s.renderer⟩ (.array .integer) {}).outcome,
          (typeText ⟨unsetSample, s.renderer⟩ (.optional .integer) {}).outcome)) =
        some (true, .error (.renderFailed "array" "UndefinedError: 'x' is undefined"),
          .error (.renderFailed "optional" "UndefinedError: 'value' is undefined")) := by
  decide +kernel

end Resolver
end ApiScribe
