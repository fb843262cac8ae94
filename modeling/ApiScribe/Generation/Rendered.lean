import ApiScribe.Generation.Data

/-!
# Rendered templates
-/

namespace ApiScribe

/-- The outcome of rendering a template: its text, and the data as the template left them. -/
structure Rendered where
  text : String
  data : Data
  deriving Inhabited

end ApiScribe
