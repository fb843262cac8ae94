/-!
# Failures of a resolution

Every failure to turn templates into files ends the run before anything is written.
-/

namespace ApiScribe

/-- Why templates cannot be resolved into a consistent set of files. -/
inductive ResolveError where
  | unknownStrategy (value : String)
  | duplicateFilename (filename : String)
  | duplicateFilenames (filenames : List String)
  | missingTemplate (name reason : String)
  | renderFailed (name reason : String)
  | nameConflict (name : String)
  deriving DecidableEq, Repr, Inhabited

namespace ResolveError

/-- Texts in apostrophes, separated by commas. -/
def listing (names : List String) : String :=
  ", ".intercalate (names.map fun name => "'" ++ name ++ "'")

/-- The error as shown to the user. -/
def message : ResolveError → String
  | .unknownStrategy value => "The value '" ++ value ++ "' is not a valid resolve strategy"
  | .duplicateFilename filename =>
    "Attempted to create two files with the same filename '" ++ filename ++ "'"
  | .duplicateFilenames filenames =>
    "Attempted to create files with already existing filenames: " ++ listing filenames
  | .missingTemplate name reason => "Template '" ++ name ++ "' is not available: " ++ reason
  | .renderFailed name reason => "Failed to render template '" ++ name ++ "': " ++ reason
  | .nameConflict name => "Two different templates would be registered as '" ++ name ++ "'"

/-- The word for the kind of the error. -/
def kind : ResolveError → String
  | .unknownStrategy _ => "unknown-resolve-strategy"
  | .duplicateFilename _ => "duplicate-filename"
  | .duplicateFilenames _ => "duplicate-filenames"
  | .missingTemplate _ _ => "missing-template"
  | .renderFailed _ _ => "render-failed"
  | .nameConflict _ => "template-name-conflict"

/-- The offending strategy or template name. -/
def value? : ResolveError → Option String
  | .unknownStrategy value => some value
  | .missingTemplate name _ => some name
  | .renderFailed name _ => some name
  | .nameConflict name => some name
  | _ => none

/-- The colliding file names. -/
def filenames : ResolveError → List String
  | .duplicateFilename filename => [filename]
  | .duplicateFilenames filenames => filenames
  | _ => []

end ResolveError
end ApiScribe
