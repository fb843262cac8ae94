import Mathlib.Logic.Function.Iterate
import ApiScribe.Proofs.Placeholder
import ApiScribe.Proofs.Registry
import ApiScribe.Generation.Resolve

/-!
# Types in wrappers around their text

If both wrappers of a configuration are a placeholder between literal texts, the text of a type is
that of its base between these literal texts, once for each array around it, and those of the
optional outermost (`Resolver.typeText_around`).  Each rendering takes the text of the type inside
as data, so the text of the base arrives as it is, whatever characters it has.
-/

namespace ApiScribe

/-- A text as often as given. -/
def times (n : Nat) (s : String) : String := String.join (List.replicate n s)

theorem times_succ (n : Nat) (s : String) : times (n + 1) s = s ++ times n s := by
  rw [times, List.replicate_succ, String.join_cons]
  rfl

theorem times_succ' (n : Nat) (s : String) : times (n + 1) s = times n s ++ s := by
  rw [times, List.replicate_succ', String.join_append, String.join_cons, String.join_nil,
    String.append_empty]
  rfl

namespace Configuration

/-- The text of a type that has no wrapper. -/
def baseText? (c : Configuration) : TypeDescriptor → Option String
  | .integer => some c.integerType
  | .string => some c.stringType
  | .boolean => some c.booleanType
  | .reference name => some name
  | .array _ => none
  | .optional _ => none

end Configuration

/-- The wrapper is the placeholder between two literal texts. -/
structure IsAround (wrapper before after : String) : Prop where
  eq : wrapper = before ++ Template.placeholder ++ after
  before : Template.IsLiteral before.toList
  after : Template.IsLiteral after.toList

namespace TemplateSet

variable {s : TemplateSet} {name source before after : String}

/-- A wrapper of this form is registered as the template around the placeholder. -/
theorem Holds.find?_around (h : s.Holds name source) (hsource : IsAround source before after) :
    s.find? name = some (Template.around before.toList after.toList) := by
  obtain ⟨template, hcompile, hfind⟩ := h
  obtain ⟨rfl, hbefore, hafter⟩ := hsource
  have htext : (before ++ Template.placeholder ++ after).toList =
      Template.sourceAround before.toList after.toList := by
    rw [String.toList_append, String.toList_append]
    rfl
  unfold compile at hcompile
  rw [htext, Template.compile_around hbefore hafter] at hcompile
  cases hcompile
  exact hfind

end TemplateSet

namespace Resolver

/-- With a memory in which no frame is in use a run gives a value, and leaves such a memory. -/
def Settles {α : Type} (x : Run Template.Memory α) (a : α) : Prop :=
  ∀ memory : Template.Memory, memory.depth = 0 →
    (x memory).outcome = .ok a ∧ (x memory).memory.depth = 0

theorem settles_done {α : Type} (a : α) : Settles (Run.done a) a := fun _ hidle => ⟨rfl, hidle⟩

theorem Settles.andThen {α β : Type} {x : Run Template.Memory α} {f : α → Run Template.Memory β}
    {a : α} {b : β} (hx : Settles x a) (hf : Settles (f a) b) : Settles (x.andThen f) b := by
  intro memory hidle
  obtain ⟨houtcome, hmemory⟩ := hx memory hidle
  unfold Run.andThen
  cases hrun : x memory with
  | mk calls outcome memory' =>
    rw [hrun] at houtcome hmemory
    cases houtcome
    exact hf memory' hmemory

variable {c : Configuration} {s : TemplateSet} {name before after : String}

/-- A wrapper writes its literal texts around the text that it is given. -/
theorem settles_wrap (hfind : s.find? name = some (Template.around before.toList after.toList))
    (value : String) :
    Settles (wrap ⟨c, s.renderer⟩ name value) (before ++ value ++ after) := by
  have hrun : Settles (s.renderer.run name (Template.valueData value))
      ⟨before ++ value ++ after, Template.valueData value⟩ := by
    intro memory hidle
    obtain ⟨memory', hidle', hrender⟩ := Template.render_around hfind hidle value
    rw [String.ofList_toList, String.ofList_toList] at hrender
    have hset : s.render name (Template.valueData value) memory =
        (.ok ⟨before ++ value ++ after, Template.valueData value⟩, memory') := by
      rw [TemplateSet.render_of_find? hfind, hrender]
      rfl
    have hanswer : s.renderer.run name (Template.valueData value) memory =
        ⟨[.render name], .ok ⟨before ++ value ++ after, Template.valueData value⟩, memory'⟩ := by
      unfold Renderer.run
      show (match s.render name (Template.valueData value) memory with
        | (outcome, memory) => (⟨_, outcome, memory⟩ : Ran _ _)) = _
      rw [hset]
    rw [hanswer]
    exact ⟨rfl, hidle'⟩
  exact hrun.andThen (settles_done _)

theorem settles_base {base : TypeDescriptor} {text : String} (h : c.baseText? base = some text) :
    Settles (typeText ⟨c, s.renderer⟩ base) text := by
  cases base with
  | array => cases h
  | optional => cases h
  | _ =>
    cases h
    exact settles_done _

variable {t : FileTree} {directory : Path} {pa sa po so text : String} {base : TypeDescriptor}

/-- Each array puts the literal texts of its wrapper around the text of its items. -/
theorem settles_arrays (hset : TemplateSet.ofConfiguration t directory c = .ok s)
    (harray : IsAround c.arrayType pa sa) (hbase : c.baseText? base = some text) (n : Nat) :
    Settles (typeText ⟨c, s.renderer⟩ (TypeDescriptor.array^[n] base))
      (times n pa ++ text ++ times n sa) := by
  induction n with
  | zero =>
    have hnone : times 0 pa ++ text ++ times 0 sa = text := by simp [times]
    rw [hnone]
    exact settles_base hbase
  | succ n ih =>
    have hfind := (TemplateSet.holds_of_assigned hset .array).find?_around harray
    -- the text grows at both ends: before it at the front, after it at the back
    have htext : times (n + 1) pa ++ text ++ times (n + 1) sa =
        pa ++ (times n pa ++ text ++ times n sa) ++ sa := by
      rw [times_succ, times_succ']
      simp only [String.append_assoc]
    rw [Function.iterate_succ_apply', htext]
    exact ih.andThen (settles_wrap hfind _)

/-- The text of a type in wrappers that are a placeholder between literal texts.  With `n` arrays
around its base it is the text of the base between the literal texts of the array wrapper, each `n`
times; an optional around them puts the literal texts of its wrapper outside.  The text of the base
is the configured name, or the name that is referred to, as it stands.  So it is in every memory of
the renderer, since a rendering leaves no frame in use. -/
theorem typeText_around (hset : TemplateSet.ofConfiguration t directory c = .ok s)
    (harray : IsAround c.arrayType pa sa) (hoptional : IsAround c.optionalType po so)
    (hbase : c.baseText? base = some text) (n : Nat) {memory : Template.Memory}
    (hidle : memory.depth = 0) :
    (typeText ⟨c, s.renderer⟩ (TypeDescriptor.array^[n] base) memory).outcome =
        .ok (times n pa ++ text ++ times n sa) ∧
      (typeText ⟨c, s.renderer⟩ (.optional (TypeDescriptor.array^[n] base)) memory).outcome =
        .ok (po ++ (times n pa ++ text ++ times n sa) ++ so) := by
  have harrays := settles_arrays hset harray hbase n
  have hfind := (TemplateSet.holds_of_assigned hset .optional).find?_around hoptional
  exact ⟨(harrays memory hidle).1, (harrays.andThen (settles_wrap hfind _) memory hidle).1⟩

/-- A configuration whose wrappers have line ends and closing braces in their literal texts. -/
def aroundSample : Configuration :=
  ⟨"int", "str", "bool", "List<\n\x7b\x7b value \x7d\x7d\x7d>\n",
    "\x7b\x7b value \x7d\x7d?\n", [], []⟩

/-- The name that is referred to looks like a template, and ends in line ends. -/
theorem typeText_around_sample :
    ∃ s, TemplateSet.ofConfiguration (.directory []) ⟨0, []⟩ aroundSample = .ok s ∧
      (typeText ⟨aroundSample, s.renderer⟩
          (.optional (.array (.array (.reference "\x7b\x7b x \x7d\x7d<&\x7b%\n\n")))) {}).outcome =
        .ok "List<\nList<\n\x7b\x7b x \x7d\x7d<&\x7b%\n\n\x7d>\n\x7d>\n?\n" := by
  have hbuilt :
      (TemplateSet.ofConfiguration (.directory []) ⟨0, []⟩ aroundSample).toOption.isSome := by
    decide +kernel
  obtain ⟨s, hs⟩ := Option.isSome_iff_exists.1 hbuilt
  rw [Outcome.toOption_eq_some] at hs
  have harray : IsAround aroundSample.arrayType "List<\n" "\x7d>\n" :=
    ⟨by decide, ⟨by decide, by decide⟩, ⟨by decide, by decide⟩⟩
  have hoptional : IsAround aroundSample.optionalType "" "?\n" :=
    ⟨by decide, ⟨by decide, by decide⟩, ⟨by decide, by decide⟩⟩
  have hbase : aroundSample.baseText? (.reference "\x7b\x7b x \x7d\x7d<&\x7b%\n\n") =
      some "\x7b\x7b x \x7d\x7d<&\x7b%\n\n" := rfl
  have hidle : ({} : Template.Memory).depth = 0 := rfl
  exact ⟨s, hs, (typeText_around hs harray hoptional hbase 2 hidle).2.trans
    (congrArg Except.ok (by decide))⟩

end Resolver
end ApiScribe
