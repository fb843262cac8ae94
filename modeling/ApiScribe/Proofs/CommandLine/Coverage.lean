import ApiScribe.CommandLine.Session
import ApiScribe.Proofs.FileTree.Endings
import ApiScribe.Proofs.Json.Values

/-!
# What a run may ask for

A tree knows nothing of what is above its top, a text holds no lone surrogate, and the engine does
not support all that a template may use.  `Command.CoveredBy` says that the run of a command comes
to none of these.  A path that stays below the top does not depend on what is above it
(`follow_below`).

A limit on nesting is known of JSON only, and there not exactly; documents, YAML and templates are
read however deep they are.
-/

namespace ApiScribe

/-! ### Paths below the top -/

namespace Path

/-- Names that are followed from so many directories below the top never lead above it. -/
def stays : Nat → List String → Bool
  | _, [] => true
  | depth, name :: names =>
    if name = up then depth != 0 && stays (depth - 1) names else stays (depth + 1) names

/-- The path leads nowhere but through the tree. -/
def Inside (p : Path) : Prop := p.isAbsolute = false ∧ stays 0 p.names

end Path

namespace FileTree

variable {t : FileTree} {entries : List (String × FileTree)} {top : String} {place : Place}

/-- A step inside a tree that is an entry of a larger one is the same step there. -/
theorem enter_below (ht : entries.lookup top = some t) {name : String}
    (h : name = Path.up → place ≠ []) :
    (directory entries).enter (top :: place) name = (t.enter place name).map (top :: ·) := by
  have hfind : (directory entries).find? (top :: place) = t.find? place := by
    rw [find?, ht]
  unfold enter
  rw [hfind]
  split
  · rfl
  · rfl
  · split
    · next hup =>
      rw [if_neg (h hup), if_neg (List.cons_ne_nil _ _), List.dropLast_cons_of_ne_nil (h hup)]
      rfl
    · split <;> rfl

/-- Names that stay below the top lead to the same place, or are refused in the same way, when the
tree is an entry of a larger one. -/
theorem follow_below (ht : entries.lookup top = some t) {names : List String}
    (h : Path.stays place.length names) :
    (directory entries).follow (top :: place) names = (t.follow place names).map (top :: ·) := by
  induction names generalizing place with
  | nil => rfl
  | cons name names ih =>
    -- one step keeps the count of the directories below the top
    have hstep : (name = Path.up → place ≠ []) ∧
        Path.stays (Place.step place name).length names := by
      unfold Path.stays at h
      unfold Place.step
      by_cases hup : name = Path.up
      · simpa [hup, List.length_eq_zero_iff] using h
      · simpa [hup] using h
    rw [follow, enter_below ht hstep.1, follow]
    cases hplace : t.enter place name with
    | error r => rfl
    | ok next =>
      obtain ⟨-, -, -, rfl⟩ := enter_eq_ok_iff.1 hplace
      exact ih hstep.2

end FileTree

/-! ### What is read -/

/-- A source spells a surrogate by an escape. -/
def Template.SpellsSurrogate (source : List Char) : Prop :=
  ∃ before letter width complaint digits after,
    source = before ++ '\\' :: letter :: digits ++ after ∧
      codeEscape? letter = some (width, complaint) ∧ digits.length = width ∧
      digits.all isHexDigit ∧ 0xD800 ≤ Text.hexValue digits ∧ Text.hexValue digits ≤ 0xDFFF

namespace FileTree

/-- The tree has all that loading a model asks for.  How a stored model is read does not depend on
where exactly the limit of nesting is, and none of its strings holds a lone surrogate. -/
structure CoversModel (t : FileTree) (p : Path) : Prop where
  inside : p.Inside
  nesting : p.suffix = Artifact.suffix → ∀ text, t.readText p = .ok text →
    ∀ levels, 900 ≤ levels → levels ≤ 1000 →
      Json.readWithin levels text.toList = Json.read text.toList
  paired : p.suffix = Artifact.suffix → ∀ text v, t.readText p = .ok text →
    Json.read text.toList = .ok v → v.Paired

/-- The tree has all that a configuration asks for, no text of the configuration holds a lone
surrogate, and no template spells one. -/
structure CoversConfiguration (t : FileTree) (p templates : Path) : Prop where
  inside : p.Inside
  paired : ∀ text d c, t.readText p = .ok text → Yaml.read text.toList = .ok d →
    Schema.configurationOf Schema.points d = .ok c →
      ∃ texts : Configuration, c = texts.map Json.codePoints
  templatesInside : ∀ c, Configuration.fromFile t p = .ok c → ∀ file ∈ c.templateFiles,
    (templates.seenFrom (Path.ofText file.templatePath)).Inside
  spelled : ∀ c sources, Configuration.fromFile t p = .ok c →
    Sources.ofConfiguration t templates c = .ok sources →
      ∀ source ∈ sources, ¬ Template.SpellsSurrogate source.2.toList

end FileTree

/-! ### What a command asks for -/

namespace CommandLine

/-- The directory of templates: that of the configuration if none is named. -/
def templatesPath (templates : Option String) (configuration : Path) : Path :=
  (templates.map Path.ofText).getD configuration.parent

/-- No template fails on the way to the generated files because it uses what is not supported. -/
def Supported (t : FileTree) (document heading : String) (configuration templates : Path) : Prop :=
  ∀ c api set, Configuration.fromFile t configuration = .ok c →
    Api.load t heading (Path.ofText document) = .ok api →
    TemplateSet.ofConfiguration t templates c = .ok set → ∀ name what,
      Session.targetFiles c set api ≠
        .error (.rejected (.renderFailed name (Template.Fault.unsupported what).text))

/-- The tree has all that the run of a command may ask for. -/
def Command.CoveredBy (t : FileTree) : Command → Prop
  | .generate document heading configuration templates output =>
    let p := Path.ofText configuration
    t.CoversModel (Path.ofText document) ∧ t.CoversConfiguration p (templatesPath templates p) ∧
      Supported t document heading p (templatesPath templates p) ∧ (Path.ofText output).Inside
  | .scrape document _ output =>
    t.CoversModel (Path.ofText document) ∧ ∀ name ∈ output, (Path.ofText name).Inside
  | .check document _ => t.CoversModel (Path.ofText document)

end CommandLine
end ApiScribe
