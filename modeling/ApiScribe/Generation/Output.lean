import ApiScribe.Generation.TargetFiles
import ApiScribe.Interruption

/-!
# Writing generated files

The output directory is made anew for every run, so that it holds the files of this run and no
others.  Every filename has to lead to a place of its own below that directory, which is checked
before anything is removed.
-/

namespace ApiScribe

/-- Why generated files cannot be written. -/
inductive WriteError where
  /-- The filename is empty, absolute or leads upwards. -/
  | outside (filename : String)
  | sameFile (first second : String)
  /-- The files of the directory refuse it, for the given reason. -/
  | refused (directory reason : String)
  deriving DecidableEq, Repr

/-- The error as shown to the user. -/
def WriteError.message : WriteError → String
  | .outside filename =>
    "Generated filename '" ++ filename ++ "' must be a relative path inside the output directory"
  | .sameFile first second =>
    "Generated filenames '" ++ first ++ "' and '" ++ second ++ "' refer to the same file"
  | .refused directory reason =>
    "Cannot write generated files to '" ++ directory ++ "': " ++ reason

namespace TargetFiles

/-- The output directory of a run that names none. -/
def defaultDirectory : String := "generated"

/-- A file and the path that it is written to. -/
structure Destination where
  path : Path
  file : TargetFile
  deriving DecidableEq, Repr, Inhabited

/-- A filename as a path; a backslash separates names as a slash does. -/
def filePath (filename : String) : Path :=
  Path.ofText (String.ofList (filename.toList.map fun c => if c = '\\' then '/' else c))

/-- The names that lead from the output directory to a file, if its filename stays below it. -/
def inside? (filename : String) : Option (List String) :=
  let p := filePath filename
  if p.isAbsolute || p.names.contains Path.up || p.names.isEmpty then none else some p.names

/-- Finds the destination of one more file. -/
def addDestination (directory : Path) (claimed : List Destination) (file : TargetFile) :
    Except WriteError (List Destination) :=
  match inside? file.filename with
  | none => .error (.outside file.filename)
  | some names =>
    match claimed.find? (·.path == directory.below names) with
    | some other => .error (.sameFile other.file.filename file.filename)
    | none => .ok (claimed ++ [⟨directory.below names, file⟩])

/-- The destinations of all files, no two of them the same. -/
def destinations (files : TargetFiles) (directory : Path) : Except WriteError (List Destination) :=
  files.toList.foldlM (addDestination directory) []

/-- Makes a directory anew. -/
def recreate (directory : Path) : FileTree.Action Unit := do
  match (← get).hasEntry directory with
  | .error e => throw e
  | .ok found =>
    if found then FileTree.Action.removeTree directory
    FileTree.Action.makeDirectories false directory

/-- Writes a file to its destination. -/
def writeTo (d : Destination) : FileTree.Action Unit :=
  FileTree.Action.store d.path (Text.encodeUtf8 d.file.content.toList)

/-- Writes files one by one. -/
def writeEach : List Destination → FileTree.Action Unit
  | [] => return ()
  | d :: ds => do
    writeTo d
    writeEach ds

/-- Makes the output directory anew and writes the files to it.  The answer are the paths that were
written. -/
def writeTree (files : TargetFiles) (directory : Path) (t : FileTree) :
    Except (Failure WriteError) (List Path) × FileTree :=
  match files.destinations directory with
  | .error e => (.error (.rejected e), t)
  | .ok ds =>
    match (do recreate directory; writeEach ds : FileTree.Action Unit).run.run t with
    | (.ok (), t) => (.ok (ds.map Destination.path), t)
    | (.error e, t) => (.error (Failure.ofFile (WriteError.refused directory.text) e), t)

end TargetFiles
end ApiScribe
