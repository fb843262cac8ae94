/-!
# File trees

A file tree is a file or a directory.  A place in it is the list of names that lead there from the
top, and `find?` is what is there.  There are no links, so a place is reached in one way only.
-/

namespace ApiScribe

/-- Files and directories; a directory holds at most one entry of each name. -/
inductive FileTree where
  | file (bytes : List UInt8)
  | directory (entries : List (String × FileTree))
  deriving Inhabited, Repr

/-- The names that lead from the top of a tree to a place in it. -/
abbrev Place := List String

namespace FileTree

/-- The entries with another one for a name. -/
def withEntry (name : String) (t : FileTree) : List (String × FileTree) → List (String × FileTree)
  | [] => [(name, t)]
  | (n, old) :: entries =>
    if n = name then (name, t) :: entries else (n, old) :: withEntry name t entries

/-- The entries without those of a name. -/
def withoutEntry (name : String) (entries : List (String × FileTree)) :
    List (String × FileTree) :=
  entries.filter fun entry => entry.1 != name

/-- The directory without entries. -/
def empty : FileTree := .directory []

/-- The tree is a directory. -/
def isDirectory : FileTree → Bool
  | .directory _ => true
  | .file _ => false

/-- What is at a place. -/
def find? : FileTree → Place → Option FileTree
  | t, [] => some t
  | .file _, _ :: _ => none
  | .directory entries, name :: place =>
    match entries.lookup name with
    | some t => t.find? place
    | none => none

/-- The tree with `new` at a place.  Directories on the way that are missing are added; below a
file there is no place for anything. -/
def put : FileTree → Place → FileTree → FileTree
  | _, [], new => new
  | .file bytes, _ :: _, _ => .file bytes
  | .directory entries, name :: place, new =>
    .directory (withEntry name (((entries.lookup name).getD empty).put place new) entries)

/-- The tree with nothing at a place; its top stays. -/
def erase : FileTree → Place → FileTree
  | t, [] => t
  | .file bytes, _ :: _ => .file bytes
  | .directory entries, [name] => .directory (withoutEntry name entries)
  | .directory entries, name :: place =>
    match entries.lookup name with
    | some t => .directory (withEntry name (t.erase place) entries)
    | none => .directory entries

mutual

/-- The files of a tree with their places, and its empty directories. -/
def leaves (place : Place) : FileTree → List (Place × Option (List UInt8))
  | .file bytes => [(place, some bytes)]
  | .directory [] => [(place, none)]
  | .directory (entry :: entries) => leavesOfEntries place (entry :: entries)

/-- The files and empty directories below the entries of a directory. -/
def leavesOfEntries (place : Place) :
    List (String × FileTree) → List (Place × Option (List UInt8))
  | [] => []
  | (name, t) :: entries => t.leaves (place ++ [name]) ++ leavesOfEntries place entries

end

/-! ### What is where after a change -/

theorem lookup_withEntry (name other : String) (t : FileTree)
    (entries : List (String × FileTree)) :
    (withEntry name t entries).lookup other =
      if other = name then some t else entries.lookup other := by
  induction entries with
  | nil =>
    by_cases h : other = name
    · simp [withEntry, h]
    · have : (other == name) = false := by simpa using h
      simp [withEntry, List.lookup_cons, this, h]
  | cons entry entries ih =>
    obtain ⟨n, old⟩ := entry
    by_cases hn : n = name
    · subst hn
      by_cases h : other = n
      · simp [withEntry, h]
      · have : (other == n) = false := by simpa using h
        simp [withEntry, List.lookup_cons, this, h]
    · by_cases h : other = n
      · subst h
        simp [withEntry, hn]
      · have : (other == n) = false := by simpa using h
        simp [withEntry, hn, List.lookup_cons, this, ih]

theorem lookup_withoutEntry (name other : String) (entries : List (String × FileTree)) :
    (withoutEntry name entries).lookup other =
      if other = name then none else entries.lookup other := by
  induction entries with
  | nil => simp [withoutEntry]
  | cons entry entries ih =>
    obtain ⟨n, old⟩ := entry
    simp only [withoutEntry] at ih
    by_cases hn : n = name
    · subst hn
      by_cases h : other = n
      · simpa [withoutEntry, h] using ih
      · have : (other == n) = false := by simpa using h
        simpa [withoutEntry, List.lookup_cons, this, h] using ih
    · have hn' : (n != name) = true := by simpa using hn
      by_cases h : other = n
      · subst h
        simp [withoutEntry, hn]
      · have : (other == n) = false := by simpa using h
        simpa [withoutEntry, List.filter_cons, hn', List.lookup_cons, this] using ih

/-- What was put at a place is found there, if its parent is a directory. -/
theorem find?_put_self {new t : FileTree} {place : Place} {name : String}
    {entries : List (String × FileTree)} (h : t.find? place = some (.directory entries)) :
    (t.put (place ++ [name]) new).find? (place ++ [name]) = some new := by
  induction place generalizing t with
  | nil =>
    obtain rfl : t = .directory entries := by simpa [find?] using h
    simp [put, find?, lookup_withEntry]
  | cons n place ih =>
    cases t with
    | file bytes => simp [find?] at h
    | directory es =>
      cases hn : es.lookup n with
      | none => simp [find?, hn] at h
      | some t =>
        have h' : t.find? place = some (.directory entries) := by simpa [find?, hn] using h
        simpa [put, find?, lookup_withEntry, hn] using ih h'

end FileTree
end ApiScribe
