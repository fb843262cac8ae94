/-!
# Places in a text

A place is given by its line and its column, both from 1, and by the number of characters before
it.  Only `\n` ends a line.
-/

namespace ApiScribe.Text

/-- The number of the line that ends the given text. -/
def lineAfter (before : List Char) : Nat := before.count '\n' + 1

/-- The number of the column after the given text. -/
def columnAfter (before : List Char) : Nat := (before.reverse.takeWhile (· != '\n')).length + 1

/-- The place at which `rest`, the end of the text, begins. -/
def placeText (text rest : List Char) : String :=
  let offset := text.length - rest.length
  let before := text.take offset
  "line " ++ toString (lineAfter before) ++ " column " ++ toString (columnAfter before) ++
    " (char " ++ toString offset ++ ")"

end ApiScribe.Text
