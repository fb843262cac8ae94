import ApiScribe.Generation.Configuration
import ApiScribe.Generation.Renderer
import ApiScribe.Interruption
import ApiScribe.Template.Check
import ApiScribe.Template.Render

/-!
# Sets of templates

Templates are registered under names and compiled when the set is built, in the order in which they
were registered; the first that is not well formed is reported.  A set never changes.  A text
depends on the name of its template, the data, and the modules that earlier renderings imported.

The set of a configuration is built from the files in a directory.  No name is ever given two
different sources: the run ends instead.
-/

namespace ApiScribe

/-- Templates by name. -/
structure TemplateSet where
  templates : List (String × Template.Compiled) := []
  deriving Inhabited

namespace TemplateSet

/-- The template of a name. -/
def find? (s : TemplateSet) (name : String) : Option Template.Compiled := s.templates.lookup name

/-- Compiles a source. -/
def compile (name source : String) : Except (Failure ResolveError) Template.Compiled :=
  (Template.compile .rendering source.toList).mapError fun
    | .ill e => .rejected (.renderFailed name ("line " ++ toString e.line ++ ": " ++ e.message))
    | .failed fault => .interrupted (.template fault)

/-- The set of sources by name. -/
def ofSources (sources : List (String × String)) : Except (Failure ResolveError) TemplateSet :=
  (sources.mapM fun (name, source) => return (name, ← compile name source)).map TemplateSet.mk

/-- Renders the template of a name where every template knows the given names. -/
def renderIn (s : TemplateSet) (globals : Template.Globals) (name : String) (data : Data)
    (memory : Template.Memory) : Except ResolveError Rendered × Template.Memory :=
  match s.find? name with
  | none => (.error (.missingTemplate name "no template registered under this name"), memory)
  | some _ =>
    let (outcome, memory) := Template.renderIn globals s.find? name data memory
    (outcome.mapError fun fault => .renderFailed name fault.text, memory)

/-- Renders the template of a name. -/
def render (s : TemplateSet) : String → Data → Template.Memory →
    Except ResolveError Rendered × Template.Memory :=
  s.renderIn Template.Eval.function?

section
variable {s : TemplateSet} {name : String} {template : Template.Compiled}

theorem renderIn_of_find? (h : s.find? name = some template) (globals : Template.Globals)
    (data : Data) (memory : Template.Memory) :
    s.renderIn globals name data memory =
      ((Template.renderIn globals s.find? name data memory).1.mapError
          fun fault => .renderFailed name fault.text,
        (Template.renderIn globals s.find? name data memory).2) := by
  unfold renderIn
  rw [h]

theorem render_of_find? (h : s.find? name = some template) (data : Data)
    (memory : Template.Memory) :
    s.render name data memory =
      ((Template.render s.find? name data memory).1.mapError
          fun fault => .renderFailed name fault.text,
        (Template.render s.find? name data memory).2) :=
  renderIn_of_find? h Template.Eval.function? data memory

end

/-- The set as a renderer, where every template knows the given names.  Its memory is empty at
first. -/
def rendererIn (s : TemplateSet) (globals : Template.Globals) : Renderer Template.Memory where
  has name := (s.find? name).isSome
  render := s.renderIn globals

/-- The set as a renderer. -/
def renderer (s : TemplateSet) : Renderer Template.Memory := s.rendererIn Template.Eval.function?

end TemplateSet

/-- The sources of templates by name, as they are registered. -/
abbrev Sources := List (String × String)

namespace Sources

/-- Registers a source; a name can be registered again with the same source. -/
def register (sources : Sources) (name source : String) : Except ResolveError Sources :=
  match sources.lookup name with
  | none => .ok (sources ++ [(name, source)])
  | some old => if old = source then .ok sources else .error (.nameConflict name)

/-- The wrappers of a configuration under their names. -/
def wrappers (c : Configuration) : Sources :=
  [(Renderer.arrayName, c.arrayType), (Renderer.optionalName, c.optionalType)]

/-- The names that no template file can have. -/
def reserved : List String := [Renderer.arrayName, Renderer.optionalName]

/-- The text of a template file in a directory of templates. -/
def readTemplate (t : FileTree) (directory : Path) (path : String) :
    Except (Failure ResolveError) String :=
  (t.readText (directory.seenFrom (Path.ofText path))).mapError
    (Failure.ofText (ResolveError.missingTemplate path))

/-- Registers a template file, then the template of its filenames. -/
def registerTemplateFile (t : FileTree) (directory : Path) (sources : Sources)
    (template : TemplateFile) : Except (Failure ResolveError) Sources := do
  let path := template.templatePath
  if reserved.contains path then throw (.rejected (.nameConflict path))
  let content ← readTemplate t directory path
  let sources ← (sources.register path content).mapError .rejected
  (sources.register (Renderer.filenameName path) template.targetPath).mapError .rejected

/-- The renames that count: of those for one identifier, the first. -/
def firstRenames : List Rename → List Rename
  | [] => []
  | r :: renames => r :: (firstRenames renames).filter fun other => other.source != r.source

/-- Registers the replacement of an identifier. -/
def registerRename (sources : Sources) (r : Rename) : Except ResolveError Sources :=
  sources.register (Renderer.renameName r.source) r.replacement

/-- The sources of a configuration: its wrappers, its template files and its renames. -/
def ofConfiguration (t : FileTree) (directory : Path) (c : Configuration) :
    Except (Failure ResolveError) Sources := do
  let sources ← c.templateFiles.foldlM (registerTemplateFile t directory) (wrappers c)
  ((firstRenames c.renames).foldlM registerRename sources).mapError .rejected

end Sources

/-- The templates of a configuration. -/
def TemplateSet.ofConfiguration (t : FileTree) (directory : Path) (c : Configuration) :
    Except (Failure ResolveError) TemplateSet := do
  let sources ← Sources.ofConfiguration t directory c
  TemplateSet.ofSources sources

end ApiScribe
