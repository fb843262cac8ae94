import ApiScribe.Document.Token
import ApiScribe.FileTree.Operation
import ApiScribe.Json.Reader
import ApiScribe.Template.Fault
import ApiScribe.Yaml.Token

/-!
# Failures of a stage

A stage rejects its input with an error of its own, which the user is shown.  Some inputs end the
whole run instead: no stage has words for them.
-/

namespace ApiScribe

/-- An event that ends a run and that no stage reports as its own error. -/
inductive Interruption where
  /-- A path holds a null character. -/
  | nullCharacter
  /-- An option that names a path has no value. -/
  | missingPath
  /-- A file that is read as text is none. -/
  | notUtf8 (e : Text.Utf8Error)
  /-- An integer has more digits than are converted. -/
  | integerTooLong (digits : Nat)
  /-- The brackets of a stored model are nested more deeply than is read. -/
  | nestedTooDeep (container : Json.Container)
  /-- A model holds a type of more wrappers than are stored. -/
  | typeTooDeep
  /-- A scalar of a configuration has no value. -/
  | scalar (fault : Yaml.ValueFault)
  /-- A marked section of a document is malformed, in the parser's own words. -/
  | markup (detail : String)
  /-- A value that a template has beforehand fails. -/
  | template (fault : Template.Fault)
  deriving DecidableEq, Repr

/-- The interruption in words. -/
def Interruption.message : Interruption → String
  | .nullCharacter => FileError.nullCharacter.message
  | .missingPath => "expected str, bytes or os.PathLike object, not list"
  | .notUtf8 e => e.message
  | .integerTooLong digits => (Template.Fault.integerTooLong digits).message
  | .nestedTooDeep container =>
    "maximum recursion depth exceeded while decoding a JSON " ++ container.name ++
      " from a unicode string"
  | .typeTooDeep => "Maximum serialization depth exceeded"
  | .scalar fault => fault.message
  | .markup detail => detail
  | .template fault => fault.message

/-- Why a stage has no result. -/
inductive Failure (ε : Type) where
  | rejected (e : ε)
  | interrupted (i : Interruption)
  deriving DecidableEq, Repr

namespace Failure

variable {ε δ : Type}

/-- The failure of a larger stage. -/
def map (f : ε → δ) : Failure ε → Failure δ
  | .rejected e => .rejected (f e)
  | .interrupted i => .interrupted i

/-- A failed operation on files in the words of a stage. -/
def ofFile (words : String → ε) : FileError → Failure ε
  | .refused r shown => .rejected (words (FileError.refused r shown).message)
  | .nullCharacter => .interrupted .nullCharacter
  | .notUtf8 e => .interrupted (.notUtf8 e)

/-- A failure to read a text in the words of a stage that also has words for a file that is no
text. -/
def ofText (words : String → ε) : FileError → Failure ε
  | .nullCharacter => .interrupted .nullCharacter
  | e => .rejected (words e.message)

end Failure
end ApiScribe
