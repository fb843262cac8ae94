/-!
# Data for templates

What a template is rendered against: plain values, nested at will.  A record keeps the order of its
keys, and a tuple is a list that is shown in parentheses.
-/

namespace ApiScribe

/-- A value that a template is rendered against. -/
inductive Data where
  | none
  | bool (b : Bool)
  | int (n : Int)
  | float (x : Float)
  | text (s : String)
  | list (items : List Data)
  | tuple (items : List Data)
  | record (members : List (String × Data))
  deriving Inhabited

/-- The member of a record. -/
def Data.member? (name : String) : Data → Option Data
  | .record members => members.lookup name
  | _ => Option.none

end ApiScribe
