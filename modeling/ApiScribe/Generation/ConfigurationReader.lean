import ApiScribe.Generation.Wrapper
import ApiScribe.Interruption
import ApiScribe.Yaml.Document

/-!
# Reading configurations

A configuration is a YAML document, and since every JSON document that matters here is one too,
either notation will do.  The document has to be a mapping, to fit the schema, and to have wrappers
that can be used; the first of these that fails is reported.

The two notations differ in one point: an escape of JSON writes half of a character beyond the
basic plane, and YAML does not join the halves.  `parse` keeps them apart as code points.  Code is
generated from texts, in which such a half is replaced: what cannot be encoded is written so.
-/

namespace ApiScribe

/-- Why a text is no configuration; the label tells the user which text it is. -/
inductive ConfigurationError where
  | malformed (label : String)
  | notMapping (label : String)
  | invalid (label : String) (findings : List Schema.Finding)
  | unusableWrappers (label : String) (problems : List Wrapper.Problem)
  /-- There is no file at the path. -/
  | notFound (path : String)
  /-- The file cannot be read, for the given reason. -/
  | unreadable (reason : String)
  deriving DecidableEq, Repr

/-- The error as shown to the user, up to the findings of a schema. -/
def ConfigurationError.message : ConfigurationError → String
  | .malformed label => "Invalid configuration syntax in " ++ label ++ ": "
  | .notMapping label => label ++ ": configuration must be a mapping"
  | .invalid label _ => label ++ ": invalid configuration: "
  | .unusableWrappers label problems =>
    label ++ ": invalid wrapper templates:\n" ++
      "\n".intercalate (problems.map fun p => "  " ++ p.message)
  | .notFound path => "Configuration file not found: " ++ path
  | .unreadable reason => "Cannot read configuration file: " ++ reason

namespace Configuration

/-- The configuration, if its wrappers can be used. -/
def usable (label : String) (c : Configuration (List Nat)) :
    Except (Failure ConfigurationError) (Configuration (List Nat)) :=
  match c.replaceUnpaired.wrapperProblems with
  | .ok [] => .ok c
  | .ok problems => .error (.rejected (.unusableWrappers label problems))
  | .error i => .error (.interrupted i)

/-- The configuration in a datum. -/
def ofDatum (label : String) (d : Datum) :
    Except (Failure ConfigurationError) (Configuration (List Nat)) :=
  match d with
  | .record _ =>
    match Schema.configurationOf Schema.points d with
    | .error findings => .error (.rejected (.invalid label findings))
    | .ok c => usable label c
  | _ => .error (.rejected (.notMapping label))

/-- The configuration in a text. -/
def parse (label text : String) :
    Except (Failure ConfigurationError) (Configuration (List Nat)) :=
  match Yaml.read text.toList with
  | .error .malformed => .error (.rejected (.malformed label))
  | .error (.value fault) => .error (.interrupted (.scalar fault))
  | .ok d => ofDatum label d

/-- The configuration in a text, with a lone surrogate replaced by the replacement character. -/
def read (label text : String) : Except (Failure ConfigurationError) Configuration :=
  (parse label text).map replaceUnpaired

end Configuration
end ApiScribe
