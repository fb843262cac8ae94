import ApiScribe.CommandLine.Command
import ApiScribe.Generation.Resolve
import ApiScribe.Generation.TemplateSet
import ApiScribe.Loading
import ApiScribe.Model.Consistency

/-!
# Sessions

A run of the program reads and writes files, prints, and ends with an exit code: 0 when the command
did its work, 1 when a stage rejected its input, 2 when the arguments were refused.  A stage that is
interrupted ends the run without a code.  The files are those below the current directory; a path
that leads elsewhere is missing.
-/

namespace ApiScribe.CommandLine

/-- How a run ends. -/
inductive Ending where
  | exit (code : Nat)
  | interrupted (i : Interruption)
  deriving DecidableEq, Repr

/-- The files, and what was printed so far. -/
structure Console where
  files : FileTree
  out : String := ""
  err : String := ""
  deriving Inhabited

/-- A run under way: it goes on, or it has ended. -/
abbrev Session := ExceptT Ending (StateM Console)

namespace Session

/-- Prints a line. -/
def print (line : String) : Session Unit :=
  modify fun c => { c with out := c.out ++ line ++ "\n" }

/-- Prints a line for the user's eyes only. -/
def note (line : String) : Session Unit :=
  modify fun c => { c with err := c.err ++ line ++ "\n" }

/-- Reports an error. -/
def reportError (message : String) : Session Unit := note ("Error: " ++ message)

/-- Goes on with the result of a stage; without one the run ends. -/
def ofStage {ε α : Type} (message : ε → String) : Except (Failure ε) α → Session α
  | .ok a => return a
  | .error (.rejected e) => do
    reportError (message e)
    throw (.exit 1)
  | .error (.interrupted i) => throw (.interrupted i)

/-- Does a stage that reads files. -/
def reading {ε α : Type} (message : ε → String) (stage : FileTree → Except (Failure ε) α) :
    Session α := do
  ofStage message (stage (← get).files)

/-- Does a stage that changes files.  What it did before it failed stays done. -/
def writing {ε α : Type} (message : ε → String)
    (stage : FileTree → Except (Failure ε) α × FileTree) : Session α := do
  let (outcome, files) := stage (← get).files
  modify fun c => { c with files := files }
  ofStage message outcome

/-- The path that the value of an option names.  A mark in place of a value is dropped, and leaves
an option that names nothing. -/
def pathOf (value : String) : Session Path :=
  if value = "--" then throw (.interrupted .missingPath) else return Path.ofText value

/-- Loads a model, and says how large it is. -/
def load (document heading : String) : Session Api := do
  let p := Path.ofText document
  let api ← reading LoadError.message fun t => Api.load t heading p
  note ("Loaded " ++ toString api.dtos.length ++ " DTO(s) and " ++
    toString api.methods.length ++ " method(s) from '" ++ p.text ++ "'.")
  return api

/-- The files that templates make of a model. -/
def targetFiles (c : Configuration) (templates : TemplateSet) (api : Api) :
    Except (Failure ResolveError) TargetFiles :=
  (Resolver.resolve ⟨c, templates.renderer⟩ api {}).outcome.mapError .rejected

/-- Generates code. -/
def generate (document heading configuration : String) (templates : Option String)
    (output : String) : Session Unit := do
  -- the options are looked at before any file is, and files are written only when all are known
  let configurationPath ← pathOf configuration
  let templateDirectory ← match templates with
    | some directory => pathOf directory
    | none => pure configurationPath.parent
  let directory ← pathOf output
  let c ← reading ConfigurationError.message (Configuration.fromFile · configurationPath)
  let api ← load document heading
  let set ← reading ResolveError.message (TemplateSet.ofConfiguration · templateDirectory c)
  let files ← ofStage ResolveError.message (targetFiles c set api)
  let _ ← writing WriteError.message (files.writeTree directory)
  print ("Generated " ++ toString files.size ++ " file(s) in '" ++ directory.text ++ "'.")

/-- Prints or stores a model. -/
def scrape (document heading : String) (output : Option String) : Session Unit := do
  let api ← load document heading
  match output with
  | none =>
    match Artifact.write Artifact.fileIndent api with
    | .ok text => print text
    | .error i => throw (.interrupted i)
  | some output =>
    let p ← pathOf output
    writing ArtifactError.message (Artifact.toFile api p)
    print ("Model written to '" ++ p.text ++ "'.")

/-- Reports what is wrong with a model. -/
def check (document heading : String) : Session Unit := do
  let api ← load document heading
  let findings := api.check
  findings.cautions.forM fun caution => print ("Warning: " ++ caution.message)
  findings.defects.forM fun defect => reportError defect.message
  if findings.hasDefects then throw (.exit 1)
  print "No issues found."

/-- Does what the program is asked to do. -/
def command : Command → Session Unit
  | .generate document heading configuration templates output =>
    generate document heading configuration templates output
  | .scrape document heading output => scrape document heading output
  | .check document heading => check document heading

/-- Shows the help, or refuses the arguments. -/
def stop : Stop → Session Unit
  | .help text => do
    modify fun c => { c with out := c.out ++ text }
    throw (.exit 0)
  | .misuse text => do
    modify fun c => { c with err := c.err ++ text }
    throw (.exit 2)

/-- A run of the program with its arguments. -/
def start (arguments : List String) : Session Unit :=
  match Command.parse arguments with
  | .ok c => command c
  | .error s => stop s

end Session

/-- A run of the program on files: how it ends, and what is printed and left. -/
def run (arguments : List String) (files : FileTree) : Ending × Console :=
  match (Session.start arguments).run.run { files := files } with
  | (.ok (), console) => (.exit 0, console)
  | (.error ending, console) => (ending, console)

end ApiScribe.CommandLine
