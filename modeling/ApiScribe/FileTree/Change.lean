import ApiScribe.FileTree.Basic

/-!
# Differences of file trees

The changes that turn one tree into another, in an order in which they can be made: what is in the
way goes first, and a directory comes before what is in it.
-/

namespace ApiScribe

/-- One change at a place. -/
inductive Change where
  /-- Removes a file, or a directory with all that is in it. -/
  | remove (place : Place)
  | makeDirectory (place : Place)
  | write (place : Place) (bytes : List UInt8)
  deriving DecidableEq, Repr

namespace FileTree

/-- The removal of what is at a place and does not fit. -/
def clearing (place : Place) (misfit : FileTree → Bool) : Option FileTree → List Change
  | some t => if misfit t then [.remove place] else []
  | none => []

/-- The entries of a directory, if it is one. -/
def entriesOf : Option FileTree → List (String × FileTree)
  | some (.directory entries) => entries
  | _ => []

mutual

/-- The changes that make a tree of what was at a place. -/
def changes (place : Place) (before : Option FileTree) : FileTree → List Change
  | .file bytes =>
    match before with
    | some (.file old) => if old = bytes then [] else [.write place bytes]
    | _ => clearing place isDirectory before ++ [.write place bytes]
  | .directory entries =>
    clearing place (!·.isDirectory) before ++
      (if before.any isDirectory then [] else [.makeDirectory place]) ++
      (((entriesOf before).filter fun old => (entries.lookup old.1).isNone).map fun old =>
        .remove (place ++ [old.1])) ++
      changesOfEntries place (entriesOf before) entries

/-- The changes that make the entries of a directory of the old ones. -/
def changesOfEntries (place : Place) (old : List (String × FileTree)) :
    List (String × FileTree) → List Change
  | [] => []
  | (name, t) :: entries =>
    changes (place ++ [name]) (old.lookup name) t ++ changesOfEntries place old entries

end
end FileTree
end ApiScribe
