import ApiScribe.Text.Quoted
import ApiScribe.Text.Split

/-!
# Paths

A path is a list of names.  Repeated slashes, a slash at the end and names that are a single dot
mean nothing and are dropped when a path is read; a name of two dots stays, since what it leads to
depends on the files.  One slash in front makes a path absolute, exactly two are kept as two.
-/

namespace ApiScribe

/-- A path: the number of slashes in front, none for a relative path, and the names. -/
structure Path where
  slashes : Nat := 0
  names : List String
  deriving DecidableEq, Repr, Inhabited

namespace Path

/-- The name of the directory above. -/
def up : String := ".."

/-- The piece of a path is a name. -/
def isName (piece : List Char) : Bool := !piece.isEmpty && piece != ['.']

/-- The names in a text. -/
def namesOf (cs : List Char) : List String :=
  ((Text.splitOn '/' cs).filter isName).map String.ofList

/-- The number of slashes in front of a path that count. -/
def slashesOf (cs : List Char) : Nat :=
  match (cs.takeWhile (· == '/')).length with
  | 0 => 0
  | 2 => 2
  | _ => 1

/-- The path that a text denotes. -/
def ofText (s : String) : Path := ⟨slashesOf s.toList, namesOf s.toList⟩

/-- The path as a text; a path without names is the current directory. -/
def text (p : Path) : String :=
  if p.slashes = 0 ∧ p.names = [] then "."
  else String.ofList (List.replicate p.slashes '/') ++ "/".intercalate p.names

/-- The path as shown in a message. -/
def shown (p : Path) : String := Text.quotedString p.text

/-- The path starts at the top of all files. -/
def isAbsolute (p : Path) : Bool := p.slashes != 0

/-- The path below a directory. -/
def below (directory : Path) (names : List String) : Path :=
  { directory with names := directory.names ++ names }

/-- A path seen from a directory: an absolute one stays as it is. -/
def seenFrom (directory p : Path) : Path := if p.isAbsolute then p else directory.below p.names

/-- The path without its last name. -/
def parent (p : Path) : Path := { p with names := p.names.dropLast }

/-- The last name with its suffix cut off is not empty, and the suffix, from the last dot on, is
more than that dot. -/
def suffixOf (name : List Char) : List Char :=
  let tail := name.reverse.takeWhile (· != '.')
  if tail.isEmpty || tail.length + 1 ≥ name.length then [] else '.' :: tail.reverse

/-- The suffix of the last name: empty, or a dot and what follows it. -/
def suffix (p : Path) : List Char :=
  match p.names.getLast? with
  | some name => suffixOf name.toList
  | none => []

/-- A path below a directory is seen from it as the names that were added. -/
@[simp] theorem names_below (directory : Path) (names : List String) :
    (directory.below names).names = directory.names ++ names := rfl

/-- Paths below the same directory are told apart by the names that were added. -/
theorem below_inj {directory : Path} {xs ys : List String} :
    directory.below xs = directory.below ys ↔ xs = ys := by
  simp [below]

end Path
end ApiScribe
