import ApiScribe.FileTree.Basic
import ApiScribe.FileTree.Path
import ApiScribe.Text.Utf8

/-!
# Operations on files

Reading a file, making a directory, writing a file and removing a directory with all that is in it.
Paths start at the top of the tree, which is the current directory; nothing above it is known, so
a path that leads out of the tree leads to nothing.

A single operation either changes the tree or is refused.  Operations made of several, the
actions, keep what was done before a refusal.
-/

namespace ApiScribe

/-- Why an operation on files is refused. -/
inductive Refusal where
  | missing
  | existing
  | notDirectory
  | isDirectory
  | invalid
  | nameTooLong
  deriving DecidableEq, Repr

/-- The number of a refusal. -/
def Refusal.code : Refusal → Nat
  | .missing => 2
  | .existing => 17
  | .notDirectory => 20
  | .isDirectory => 21
  | .invalid => 22
  | .nameTooLong => 36

/-- A refusal in words. -/
def Refusal.text : Refusal → String
  | .missing => "No such file or directory"
  | .existing => "File exists"
  | .notDirectory => "Not a directory"
  | .isDirectory => "Is a directory"
  | .invalid => "Invalid argument"
  | .nameTooLong => "File name too long"

/-- Why an operation on files failed. -/
inductive FileError where
  /-- The operation is refused; `shown` is the path as the message shows it. -/
  | refused (r : Refusal) (shown : String)
  /-- The path holds a null character, so it is none. -/
  | nullCharacter
  /-- The file is no text. -/
  | notUtf8 (e : Text.Utf8Error)
  deriving DecidableEq, Repr

/-- The error as shown to the user. -/
def FileError.message : FileError → String
  | .refused r shown => "[Errno " ++ toString r.code ++ "] " ++ r.text ++ ": " ++ shown
  | .nullCharacter => "embedded null byte"
  | .notUtf8 e => e.message

namespace FileTree

/-! ### Where a path leads -/

/-- The longest name of an entry, in bytes. -/
def nameLimit : Nat := 255

/-- A path has to be shorter than so many bytes. -/
def pathLimit : Nat := 4096

/-- The place of a name in the directory at a place. -/
def enter (t : FileTree) (place : Place) (name : String) : Except Refusal Place :=
  match t.find? place with
  | none => .error .missing
  | some (.file _) => .error .notDirectory
  | some (.directory _) =>
    if name = Path.up then
      if place = [] then .error .missing else .ok place.dropLast
    else if name.utf8ByteSize > nameLimit then .error .nameTooLong
    else .ok (place ++ [name])

/-- The place that names lead to from another one.  All but the last have to be directories. -/
def follow (t : FileTree) : Place → List String → Except Refusal Place
  | place, [] => .ok place
  | place, name :: names =>
    match t.enter place name with
    | .ok place => t.follow place names
    | .error r => .error r

/-- The place that a path leads to; there may be nothing at it.  An absolute path, and one that
climbs above the top, is missing: it may well lead somewhere, but to no place of this tree. -/
def locate (t : FileTree) (p : Path) : Except FileError Place :=
  if p.text.toList.contains '\x00' then .error .nullCharacter
  else if p.text.utf8ByteSize ≥ pathLimit then .error (.refused .nameTooLong p.shown)
  else if p.isAbsolute then .error (.refused .missing p.shown)
  else (t.follow [] p.names).mapError fun r => .refused r p.shown

/-! ### Single operations -/

/-- The bytes of a file. -/
def read (t : FileTree) (p : Path) : Except FileError (List UInt8) := do
  match t.find? (← t.locate p) with
  | some (.file bytes) => return bytes
  | some (.directory _) => throw (.refused .isDirectory p.shown)
  | none => throw (.refused .missing p.shown)

/-- The text of a file. -/
def readText (t : FileTree) (p : Path) : Except FileError String := do
  match Text.decodeUtf8 (← t.read p) with
  | .ok cs => return String.ofList (Text.unifyLineEnds cs)
  | .error e => throw (.notUtf8 e)

/-- There is something at the end of a path.  A path that leads nowhere is no error. -/
def hasEntry (t : FileTree) (p : Path) : Except FileError Bool :=
  match t.locate p with
  | .ok place => .ok (t.find? place).isSome
  | .error (.refused .nameTooLong shown) => .error (.refused .nameTooLong shown)
  | .error _ => .ok false

/-- There is a directory at the end of a path. -/
def hasDirectory (t : FileTree) (p : Path) : Bool :=
  match t.locate p with
  | .ok place => (t.find? place).any FileTree.isDirectory
  | .error _ => false

/-- Makes a directory where nothing is yet. -/
def makeDirectory (t : FileTree) (p : Path) : Except FileError FileTree := do
  let place ← t.locate p
  match t.find? place with
  | some _ => throw (.refused .existing p.shown)
  | none => return t.put place empty

/-- Writes a file, in place of the one that may be there. -/
def write (t : FileTree) (p : Path) (bytes : List UInt8) : Except FileError FileTree := do
  let place ← t.locate p
  match t.find? place with
  | some (.directory _) => throw (.refused .isDirectory p.shown)
  | _ => return t.put place (.file bytes)

/-- Removes all entries of a directory.  The message about a file that is none shows what kind of
path it is. -/
def clearDirectory (t : FileTree) (p : Path) : Except FileError FileTree := do
  let place ← t.locate p
  match t.find? place with
  | some (.directory _) => return t.put place empty
  | some (.file _) => throw (.refused .notDirectory ("PosixPath(" ++ p.shown ++ ")"))
  | none => throw (.refused .missing p.shown)

/-- Removes an empty directory; the top of the tree stays. -/
def removeDirectory (t : FileTree) (p : Path) : Except FileError FileTree := do
  let place ← t.locate p
  match t.find? place with
  | none => throw (.refused .missing p.shown)
  | some (.file _) => throw (.refused .notDirectory p.shown)
  | some (.directory _) =>
    if place = [] then throw (.refused .invalid p.shown) else return t.erase place

/-! ### Actions -/

/-- Operations in sequence: what was done before a failure stays done. -/
abbrev Action := ExceptT FileError (StateM FileTree)

namespace Action

/-- A single operation as an action. -/
def ofStep (f : FileTree → Except FileError FileTree) : Action Unit := do
  match f (← get) with
  | .ok t => set t
  | .error e => throw e

/-- Makes a directory; one that is there already will do if `existing` allows it. -/
def makeDirectory (existing : Bool) (p : Path) : Action Unit := do
  let t ← get
  match t.makeDirectory p with
  | .ok t => set t
  | .error e =>
    if existing && t.hasDirectory p then return () else throw e

/-- Makes the directory of the given names, last one first, and those above it that are missing. -/
def makeDirectoriesOf (slashes : Nat) (existing : Bool) : List String → Action Unit
  | [] => makeDirectory existing ⟨slashes, []⟩
  | name :: above => do
    let p : Path := ⟨slashes, (name :: above).reverse⟩
    -- only tried out here: what a first try would change is not kept
    match (← get).makeDirectory p with
    | .error (.refused .missing _) =>
      makeDirectoriesOf slashes true above
      makeDirectory existing p
    | _ => makeDirectory existing p

/-- Makes a directory and those above it that are missing. -/
def makeDirectories (existing : Bool) (p : Path) : Action Unit :=
  makeDirectoriesOf p.slashes existing p.names.reverse

/-- Writes a file and makes the directories above it that are missing. -/
def store (p : Path) (bytes : List UInt8) : Action Unit := do
  makeDirectories true p.parent
  ofStep (FileTree.write · p bytes)

/-- Removes a directory with all that is in it. -/
def removeTree (p : Path) : Action Unit := do
  ofStep (FileTree.clearDirectory · p)
  ofStep (FileTree.removeDirectory · p)

end Action
end FileTree
end ApiScribe
