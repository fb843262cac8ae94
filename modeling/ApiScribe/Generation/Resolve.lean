import ApiScribe.Generation.Configuration
import ApiScribe.Generation.Renderer
import ApiScribe.Generation.Strategy
import ApiScribe.Generation.TargetFiles
import ApiScribe.Generation.View

/-!
# Resolving a model into files

All views are built first.  Then each template file in turn is rendered, once per entity or once
for all, and its files are added to those of the run.  Nothing is returned when a step fails: not
on an unknown strategy, not on a failed rendering and not on two files of one name.

Type strings are rendered from the inside out: the text of the inner type is the data of the
wrapper around it.
-/

namespace ApiScribe

/-- What resolution needs: how types are written, and where templates are rendered. -/
structure Resolver (μ : Type) where
  configuration : Configuration
  renderer : Renderer μ

namespace Resolver

variable {μ : Type}

/-- The text of a template. -/
def textOf (r : Resolver μ) (name : String) (data : Data) : Run μ String :=
  (r.renderer.run name data).andThen fun rendered => .done rendered.text

/-- The text of a wrapper around the text of a type. -/
def wrap (r : Resolver μ) (wrapper value : String) : Run μ String :=
  r.textOf wrapper (.record [("value", .text value)])

/-- The text of a type in the target language. -/
def typeText (r : Resolver μ) : TypeDescriptor → Run μ String
  | .integer => .done r.configuration.integerType
  | .string => .done r.configuration.stringType
  | .boolean => .done r.configuration.booleanType
  | .reference name => .done name
  | .array element => (r.typeText element).andThen (r.wrap Renderer.arrayName)
  | .optional inner => (r.typeText inner).andThen (r.wrap Renderer.optionalName)

/-- The replacement of an identifier, rendered against the names of the entity it belongs to; the
identifier itself when it has none. -/
def rename (r : Resolver μ) (identifier : String) (owner : Names) : Run μ String := do
  if ← r.renderer.ask (Renderer.renameName identifier) then
    r.textOf (Renderer.renameName identifier) owner.toData
  else
    return identifier

/-- The view of a field or parameter. -/
def memberView (r : Resolver μ) (owner : Names) (m : Member) : Run μ MemberView := do
  let name ← r.rename m.name owner
  let type ← r.typeText m.type
  return ⟨name, m.name, type, m.type.isOptional, m.type.referencedName?.map Names.of⟩

/-- The view of a DTO. -/
def dtoView (r : Resolver μ) (dto : Dto) : Run μ DtoView := do
  let name ← r.rename dto.name (Names.of dto.name)
  let fields ← Run.each (r.memberView (Names.of dto.name)) dto.fields
  return ⟨Names.of name, fields, usedDtoNames dto.name dto.fields⟩

/-- The view of a method. -/
def methodView (r : Resolver μ) (method : Method) : Run μ MethodView := do
  let name ← r.rename method.name (Names.of method.name)
  let parameters ← Run.each (r.memberView (Names.of method.name)) method.parameters
  return ⟨Names.of name, parameters, usedDtoNames method.name method.parameters⟩

/-- The views of all entities, as data. -/
structure Views where
  dtos : List Data
  methods : List Data

/-- The views of a model. -/
def views (r : Resolver μ) (api : Api) : Run μ Views := do
  let dtos ← Run.each r.dtoView api.dtos
  let methods ← Run.each r.methodView api.methods
  return ⟨dtos.map DtoView.toData, methods.map MethodView.toData⟩

/-- The entities that a strategy is about. -/
def entities (strategy : Strategy) (views : Views) : List Data :=
  if strategy.isForDtos then views.dtos else views.methods

/-- The views with other entities for a strategy. -/
def withEntities (strategy : Strategy) (views : Views) (entities : List Data) : Views :=
  if strategy.isForDtos then { views with dtos := entities } else { views with methods := entities }

/-- The data of each rendering of a template file. -/
def passes (strategy : Strategy) (views : Views) : List Data :=
  let found := entities strategy views
  if strategy.isForEach then found.map fun entity => .record [(strategy.item, entity)]
  else [.record [(strategy.collection, .list found)]]

/-- The views after the renderings of a template file, which may have changed their data. -/
def viewsAfter (strategy : Strategy) (views : Views) (passes : List Data) : Views :=
  withEntities strategy views <|
    if strategy.isForEach then passes.map fun data => (data.member? strategy.item).getD data
    else passes.flatMap fun data =>
      match data.member? strategy.collection with
      | some (.list found) => found
      | _ => []

/-- The file of one rendering: first its name, then its text.  Both are rendered against the same
data, which are given back. -/
def targetFile (r : Resolver μ) (path : String) (data : Data) : Run μ (TargetFile × Data) := do
  let filename ← r.renderer.run (Renderer.filenameName path) data
  let content ← r.renderer.run path filename.data
  return (⟨filename.text, content.text⟩, content.data)

/-- Renders a template file against each of the data and gathers its files; the data are given
back. -/
def batch (r : Resolver μ) (path : String) :
    TargetFiles → List Data → Run μ (TargetFiles × List Data)
  | files, [] => .done (files, [])
  | files, data :: more => do
    let (file, data) ← r.targetFile path data
    let files ← Run.ofOutcome (files.insert file)
    let (files, more) ← r.batch path files more
    return (files, data :: more)

/-- Adds the files of each template file. -/
def addTemplateFiles (r : Resolver μ) :
    Views → TargetFiles → List TemplateFile → Run μ TargetFiles
  | _, files, [] => .done files
  | views, files, template :: more => do
    let strategy ← Run.ofOutcome (Strategy.ofName template.strategy)
    let (new, after) ← r.batch template.templatePath TargetFiles.empty (passes strategy views)
    let files ← Run.ofOutcome (files.insertAll new)
    r.addTemplateFiles (viewsAfter strategy views after) files more

/-- The files of a model. -/
def resolve (r : Resolver μ) (api : Api) : Run μ TargetFiles := do
  r.addTemplateFiles (← r.views api) TargetFiles.empty r.configuration.templateFiles

end Resolver
end ApiScribe
