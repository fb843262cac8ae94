/-!
# Case variants of identifiers

Templates see an identifier in four spellings.  Only ASCII letters change case; in `snakeCase`
every ASCII capital becomes a small letter, with an underscore before it unless it comes first.
-/

namespace ApiScribe

/-- An identifier with its case variants. -/
structure Names where
  given : String
  snakeCase : String
  camelCase : String
  capitalCamelCase : String
  deriving DecidableEq, Repr, Inhabited

namespace Names

/-- The snake-case spelling of what follows the first character. -/
def snakeRest : List Char → List Char
  | [] => []
  | c :: cs => if c.isUpper then '_' :: c.toLower :: snakeRest cs else c :: snakeRest cs

/-- Every ASCII capital as a small letter, after an underscore unless it comes first. -/
def snake : List Char → List Char
  | [] => []
  | c :: cs => c.toLower :: snakeRest cs

/-- The first character as a small letter. -/
def camel : List Char → List Char
  | [] => []
  | c :: cs => c.toLower :: cs

/-- The first character as a capital. -/
def capitalCamel : List Char → List Char
  | [] => []
  | c :: cs => c.toUpper :: cs

/-- `UserPhotos` becomes `user_photos`. -/
def toSnakeCase (identifier : String) : String := String.ofList (snake identifier.toList)

/-- `UserPhotos` becomes `userPhotos`. -/
def toCamelCase (identifier : String) : String := String.ofList (camel identifier.toList)

/-- `sendMessage` becomes `SendMessage`. -/
def toCapitalCamelCase (identifier : String) : String :=
  String.ofList (capitalCamel identifier.toList)

/-- All spellings of an identifier. -/
def of (identifier : String) : Names where
  given := identifier
  snakeCase := toSnakeCase identifier
  camelCase := toCamelCase identifier
  capitalCamelCase := toCapitalCamelCase identifier

end Names
end ApiScribe
