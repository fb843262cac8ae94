import ApiScribe.Artifact
import ApiScribe.Document.Scrape
import ApiScribe.Generation.ConfigurationReader
import ApiScribe.Interruption

/-!
# Loading models and configurations

A model comes from a document or, if the file has the suffix of one, from a stored model.
Each stage has its own words for a file that cannot be read.
-/

namespace ApiScribe

namespace Document

/-- The text of a document. -/
def fromFile (t : FileTree) (p : Path) : Except (Failure ScrapeError) String :=
  (t.readText p).mapError (Failure.ofText (ScrapeError.unreadable p.text))

/-- The tables of a document. -/
def scrapeText (heading text : String) : Except (Failure ScrapeError) (List Table) :=
  match parse text with
  | .error (.section detail) => .error (.interrupted (.markup detail))
  | .error (.tooLong digits) => .error (.interrupted (.integerTooLong digits))
  | .ok document => (scrape heading document).mapError .rejected

end Document

namespace Artifact

/-- The model stored in a file. -/
def fromFile (t : FileTree) (p : Path) : Except (Failure ArtifactError) Api := do
  let text ← (t.readText p).mapError (Failure.ofFile (ArtifactError.unreadable p.text))
  read text

/-- The indent of the models that are stored in files. -/
def fileIndent : Option Nat := some 2

/-- Stores a model in a file, and makes the directories above it that are missing; they are made
even if the model cannot be stored. -/
def toFile (api : Api) (p : Path) (t : FileTree) :
    Except (Failure ArtifactError) Unit × FileTree :=
  let text := write fileIndent api
  let action := match text with
    | .ok text => FileTree.Action.store p (Text.encodeUtf8 (text.toList ++ ['\n']))
    | .error _ => FileTree.Action.makeDirectories true p.parent
  match action.run.run t, text with
  | (.error e, t), _ => (.error (Failure.ofFile (ArtifactError.unwritable p.text) e), t)
  | (.ok (), t), .ok _ => (.ok (), t)
  | (.ok (), t), .error i => (.error (.interrupted i), t)

end Artifact

namespace Configuration

/-- The configuration in a file. -/
def parseFile (t : FileTree) (p : Path) :
    Except (Failure ConfigurationError) (Configuration (List Nat)) :=
  match t.readText p with
  | .ok text => parse p.text text
  | .error (.refused .missing _) => .error (.rejected (.notFound p.text))
  | .error e => .error (Failure.ofFile ConfigurationError.unreadable e)

/-- The configuration in a file, with a lone surrogate replaced. -/
def fromFile (t : FileTree) (p : Path) : Except (Failure ConfigurationError) Configuration :=
  (parseFile t p).map replaceUnpaired

end Configuration

/-- Why no model can be loaded. -/
inductive LoadError where
  | document (e : ScrapeError)
  | stored (e : ArtifactError)
  deriving DecidableEq, Repr

/-- The error as shown to the user. -/
def LoadError.message : LoadError → String
  | .document e => e.message
  | .stored e => e.message

namespace Api

/-- The model of a document. -/
def ofDocument (heading text : String) : Except (Failure ScrapeError) Api :=
  (Document.scrapeText heading text).map ofTables

/-- The model in a file. -/
def load (t : FileTree) (heading : String) (p : Path) : Except (Failure LoadError) Api :=
  if p.suffix = Artifact.suffix then (Artifact.fromFile t p).mapError (Failure.map .stored)
  else ((Document.fromFile t p).bind (ofDocument heading)).mapError (Failure.map .document)

end Api
end ApiScribe
