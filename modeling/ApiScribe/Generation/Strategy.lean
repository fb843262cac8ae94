import ApiScribe.Generation.ResolveError

/-!
# Resolve strategies

A template is rendered once for each entity of a kind, or once for all of them.
-/

namespace ApiScribe

/-- How a template file is turned into files. -/
inductive Strategy where
  | allDtos
  | eachDto
  | allMethods
  | eachMethod
  deriving DecidableEq, Repr, Inhabited

namespace Strategy

/-- The name of a strategy in configurations. -/
def name : Strategy → String
  | .allDtos => "FOR_ALL_DTOS"
  | .eachDto => "FOR_EACH_DTO"
  | .allMethods => "FOR_ALL_METHODS"
  | .eachMethod => "FOR_EACH_METHOD"

/-- The strategy of a name, which must match exactly. -/
def ofName (value : String) : Except ResolveError Strategy :=
  match [allDtos, eachDto, allMethods, eachMethod].find? (·.name == value) with
  | some s => .ok s
  | none => .error (.unknownStrategy value)

/-- The template is rendered once for each entity. -/
def isForEach : Strategy → Bool
  | .eachDto => true
  | .eachMethod => true
  | _ => false

/-- The strategy is about DTOs, not methods. -/
def isForDtos : Strategy → Bool
  | .allDtos => true
  | .eachDto => true
  | _ => false

/-- The template variable for all entities. -/
def collection (s : Strategy) : String := if s.isForDtos then "dtos" else "methods"

/-- The template variable for a single entity. -/
def item (s : Strategy) : String := if s.isForDtos then "dto" else "method"

end Strategy
end ApiScribe
