import ApiScribe.Text.Blank
import ApiScribe.Text.Casing
import ApiScribe.Text.Split

/-!
# Editing text

Searching, replacing, cutting and padding.  A limit on the number of cuts or replacements is a
natural number; without a limit there are as many as fit.
-/

namespace ApiScribe.Text

/-- The place of the first occurrence of `mark`. -/
def find? (mark cs : List Char) : Option Nat := (cut? mark cs).map fun (before, _) => before.length

/-- The place of the last occurrence of `mark`. -/
def findLast? (mark cs : List Char) : Option Nat :=
  (find? mark.reverse cs.reverse).map fun n => cs.length - n - mark.length

/-- The pieces between the first occurrences of `mark`, at most `limit` of them; `fuel` bounds the
number of pieces. -/
def piecesBetween (mark : List Char) : Nat → Option Nat → List Char → List (List Char)
  | 0, _, cs => [cs]
  | fuel + 1, limit, cs =>
    if limit = some 0 then [cs]
    else match cut? mark cs with
      | none => [cs]
      | some (before, after) =>
        before :: piecesBetween mark fuel (limit.map (· - 1)) after

/-- The pieces of a text between the first occurrences of a separator that is not empty. -/
def split (mark : List Char) (limit : Option Nat) (cs : List Char) : List (List Char) :=
  piecesBetween mark cs.length limit cs

/-- The pieces of a text between the last occurrences of a separator that is not empty. -/
def splitLast (mark : List Char) (limit : Option Nat) (cs : List Char) : List (List Char) :=
  ((split mark.reverse limit cs.reverse).map List.reverse).reverse

/-- The words of a text; after so many cuts the rest is one word, with the blanks in it. -/
def splitWords : Nat → Option Nat → List Char → List (List Char)
  | 0, _, _ => []
  | fuel + 1, limit, cs =>
    match cs.dropWhile isBlank with
    | [] => []
    | cs =>
      if limit = some 0 then [cs]
      else
        let word := cs.takeWhile (!isBlank ·)
        word :: splitWords fuel (limit.map (· - 1)) (cs.drop word.length)

/-- The number of occurrences of `mark` that do not overlap; an empty one occurs everywhere. -/
def occurrences (mark cs : List Char) : Nat :=
  if mark.isEmpty then cs.length + 1 else (split mark none cs).length - 1

/-- The text with `new` before each of its characters and at its end. -/
def spread (new : List Char) : Option Nat → List Char → List Char
  | some 0, cs => cs
  | _, [] => new
  | limit, c :: cs => new ++ c :: spread new (limit.map (· - 1)) cs

/-- The text with `new` for the first occurrences of `old`. -/
def replace (old new : List Char) (limit : Option Nat) (cs : List Char) : List Char :=
  if old.isEmpty then spread new limit cs else join new (split old limit cs)

/-- The character ends a line. -/
def isLineEnd (c : Char) : Bool :=
  let n := c.toNat
  (10 ≤ n && n ≤ 13) || (28 ≤ n && n ≤ 30) || n == 0x85 || n == 0x2028 || n == 0x2029

/-- The lines of a text; `line` is the beginning of the current one, the last character first.  A
line end at the end of the text begins no line. -/
def linesFrom (keepEnds : Bool) (line : List Char) : List Char → List (List Char)
  | [] => if line.isEmpty then [] else [line.reverse]
  | '\r' :: '\n' :: cs =>
    (if keepEnds then ('\n' :: '\r' :: line).reverse else line.reverse) :: linesFrom keepEnds [] cs
  | c :: cs =>
    if isLineEnd c then
      (if keepEnds then (c :: line).reverse else line.reverse) :: linesFrom keepEnds [] cs
    else linesFrom keepEnds (c :: line) cs

/-- The lines of a text. -/
def lines (keepEnds : Bool) (cs : List Char) : List (List Char) := linesFrom keepEnds [] cs

/-- The text without the characters of a class at its start. -/
def trimStart (p : Char → Bool) (cs : List Char) : List Char := cs.dropWhile p

/-- The text without the characters of a class at its end. -/
def trimEnd (p : Char → Bool) (cs : List Char) : List Char := (cs.reverse.dropWhile p).reverse

/-- The text in which every run of characters with case begins with a capital; `before` is what
stands before it, the last character first. -/
def titleAfter (before : List Char) : List Char → List Char
  | [] => []
  | c :: cs =>
    (if before.head?.any isCased then
      if c = 'Σ' then [if isFinalSigma before cs then 'ς' else 'σ'] else lowerChar c
    else titleChar c) ++ titleAfter (c :: before) cs

/-- The text in which every run of characters with case begins with a capital. -/
def titleWords (cs : List Char) : List Char := titleAfter [] cs

/-- The text with small letters for capitals and the other way round; `before` is what stands before
it, the last character first. -/
def swapCaseAfter (before : List Char) : List Char → List Char
  | [] => []
  | c :: cs =>
    (if c = 'Σ' then [if isFinalSigma before cs then 'ς' else 'σ']
      else if isCapital c then lowerChar c
      else if isSmall c then upperChar c
      else [c]) ++ swapCaseAfter (c :: before) cs

/-- The text with small letters for capitals and the other way round. -/
def swapCase (cs : List Char) : List Char := swapCaseAfter [] cs

/-- The text has capitals and no letters with case besides. -/
def isAllCapital (cs : List Char) : Bool :=
  cs.any isCapital && !cs.any fun c => isSmall c || isTitleForm c

/-- The text has small letters and no letters with case besides. -/
def isAllSmall (cs : List Char) : Bool :=
  cs.any isSmall && !cs.any fun c => isCapital c || isTitleForm c

/-- Every capital begins a run of characters with case, and every other one goes on with it;
`inside` tells whether a run has begun. -/
def isTitledFrom (inside : Bool) : List Char → Bool
  | [] => true
  | c :: cs =>
    if isCapital c || isTitleForm c then !inside && isTitledFrom true cs
    else if isSmall c then inside && isTitledFrom true cs
    else isTitledFrom false cs

/-- The text has letters with case, and every run of them begins with a capital and has no other. -/
def isTitled (cs : List Char) : Bool := cs.any isCased && isTitledFrom false cs

/-- The text with blanks for its tabulators, up to the next column that is a multiple of `size`;
`column` is the place in the line. -/
def expandTabs (size column : Nat) : List Char → List Char
  | [] => []
  | '\t' :: cs =>
    let fill := if size = 0 then 0 else size - column % size
    List.replicate fill ' ' ++ expandTabs size (column + fill) cs
  | c :: cs => c :: expandTabs size (if c = '\n' ∨ c = '\r' then 0 else column + 1) cs

/-- The text filled up with zeros after its sign. -/
def fillZeros (width : Nat) (cs : List Char) : List Char :=
  let zeros := List.replicate (width - cs.length) '0'
  match cs with
  | '+' :: rest => '+' :: zeros ++ rest
  | '-' :: rest => '-' :: zeros ++ rest
  | cs => zeros ++ cs

/-- The text in the middle of so many characters; of an odd number of fill characters the extra one
stands where it makes the text's place even. -/
def center (width : Nat) (fill : Char) (cs : List Char) : List Char :=
  let pad := width - cs.length
  let left := pad / 2 + (if pad % 2 == 1 && width % 2 == 1 then 1 else 0)
  List.replicate left fill ++ cs ++ List.replicate (pad - left) fill

end ApiScribe.Text
