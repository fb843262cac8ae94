import ApiScribe.Template.Scope

/-!
# Compiled templates
-/

namespace ApiScribe.Template

/-- A template that has passed all checks. -/
structure Compiled where
  body : List Stmt
  /-- The blocks, an outer one before those in it. -/
  blocks : List Block
  /-- The variables that the template looks up in its data. -/
  needed : List String
  deriving Inhabited

end ApiScribe.Template
