import ApiScribe.Template.Fault

/-!
# Tokens of templates

A template is text with tags: `{{ … }}` prints an expression and
`{% … %}` holds a statement.  Text outside of tags is a token as it stands.
-/

namespace ApiScribe.Template

/-- What a token is. -/
inductive Lexeme where
  /-- Text outside of tags. -/
  | data (text : String)
  | printBegin
  | printEnd
  | blockBegin
  | blockEnd
  | name (name : String)
  | text (s : String)
  | integer (n : Nat)
  | float (x : Float)
  /-- An operator, a bracket or a separator, as it is written. -/
  | sign (symbol : String)
  | finish
  deriving Inhabited, Repr

/-- A token and the line on which it begins. -/
structure Token where
  line : Nat
  lexeme : Lexeme
  deriving Inhabited, Repr

namespace Lexeme

/-- The token is the given sign. -/
def isSign (symbol : String) : Lexeme → Bool
  | .sign s => s == symbol
  | _ => false

/-- The token is the given word. -/
def isName (word : String) : Lexeme → Bool
  | .name s => s == word
  | _ => false

/-- The token in words. -/
def describe : Lexeme → String
  | .data _ => "template data / text"
  | .printBegin => "begin of print statement"
  | .printEnd => "end of print statement"
  | .blockBegin => "begin of statement block"
  | .blockEnd => "end of statement block"
  | .name word => word
  | .text _ => "string"
  | .integer _ => "integer"
  | .float _ => "float"
  | .sign symbol => symbol
  | .finish => "end of template"

end Lexeme

/-- The tokens of a text.  A text that is refused somewhere has tokens up to there. -/
structure Tokens where
  items : List Token
  fault : Option Refusal
  deriving Inhabited

end ApiScribe.Template
