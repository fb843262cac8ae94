import ApiScribe.Model.TypeDescriptor
import ApiScribe.Text.Blank
import ApiScribe.Text.Split

/-!
# The type grammar of documentation cells

A type cell says `Integer`, `String`, `Boolean`, `Array of …`, or names an entity; another cell
makes the type optional when it starts with `Optional`.  Blanks never count, so that line breaks
and indentation of the markup do not change a type.  Every text has a type: what is not a word of
the grammar is a reference.
-/

namespace ApiScribe.TypeDescriptor

/-- The word that starts the qualifier of an optional member. -/
def optionalMarker : List Char := "Optional".toList

/-- The primitive type that a text without blanks names. -/
def primitive? (cs : List Char) : Option TypeDescriptor :=
  if cs = "Integer".toList then some .integer
  else if cs = "String".toList then some .string
  else if cs = "Boolean".toList then some .boolean
  -- a member that takes either is given the wider type
  else if cs = "IntegerorString".toList then some .string
  else none

/-- The type of a text without blanks; `written` is the name of a reference. -/
def ofCompact (written : List Char) : List Char → TypeDescriptor
  | 'A' :: 'r' :: 'r' :: 'a' :: 'y' :: 'o' :: 'f' :: element => .array (ofCompact element element)
  | cs => (primitive? cs).getD (.reference (String.ofList written))

/-- The type of a cell, its optionality apart.  A reference outside an array keeps the text of the
cell as it is written. -/
def ofCell (cell : List Char) : TypeDescriptor := ofCompact cell (Text.withoutBlanks cell)

/-- The qualifier makes its member optional. -/
def qualifies (qualifier : List Char) : Bool :=
  Text.startsWith optionalMarker (Text.withoutBlanks qualifier)

/-- The type of a member from its type cell and the cell that marks optionality: the description
of a field, the required cell of a parameter. -/
def parse (cell qualifier : String) : TypeDescriptor :=
  if qualifies qualifier.toList then .optional (ofCell cell.toList) else ofCell cell.toList

end ApiScribe.TypeDescriptor
