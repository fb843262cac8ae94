/-!
# Blank characters

The characters that Unicode calls white space, and the four separators U+001C to U+001F.  Text is
compared "whatever its blanks": `withoutBlanks` removes them all, wherever they stand.
-/

namespace ApiScribe.Text

/-- White space of the Unicode standard, or one of the information separators. -/
def isBlank (c : Char) : Bool :=
  let n := c.toNat
  (9 ≤ n && n ≤ 13) || (28 ≤ n && n ≤ 32) || n == 0x85 || n == 0xA0 || n == 0x1680 ||
    (0x2000 ≤ n && n ≤ 0x200A) || n == 0x2028 || n == 0x2029 || n == 0x202F || n == 0x205F ||
    n == 0x3000

/-- The text without its blanks. -/
def withoutBlanks (cs : List Char) : List Char := cs.filter (!isBlank ·)

/-- The text without the blanks at its start and end. -/
def trimBlanks (cs : List Char) : List Char :=
  ((cs.dropWhile isBlank).reverse.dropWhile isBlank).reverse

/-- The maximal runs of the text that hold no blank. -/
def words (cs : List Char) : List (List Char) :=
  let (word, found) := cs.foldr (fun c (word, found) =>
    if isBlank c then ([], if word.isEmpty then found else word :: found)
    else (c :: word, found)) ([], [])
  if word.isEmpty then found else word :: found

@[simp] theorem withoutBlanks_nil : withoutBlanks [] = [] := rfl

@[simp] theorem withoutBlanks_append (cs ds : List Char) :
    withoutBlanks (cs ++ ds) = withoutBlanks cs ++ withoutBlanks ds := by
  simp [withoutBlanks]

/-- Removing blanks a second time changes nothing. -/
@[simp] theorem withoutBlanks_withoutBlanks (cs : List Char) :
    withoutBlanks (withoutBlanks cs) = withoutBlanks cs := by
  simp [withoutBlanks, List.filter_filter]

end ApiScribe.Text
