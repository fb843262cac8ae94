import ApiScribe.CommandLine.Session
import ApiScribe.FileTree.Change

/-!
# The program

Reads the files below the current directory, does what the arguments ask for, and makes the changes
that the run made to the files.  Everything else is decided by `CommandLine.run`.
-/

open ApiScribe

/-- The name of a file below the current directory. -/
def fileName (place : Place) : String := "/".intercalate ("." :: place)

/-- The files below the current directory. -/
def loadFiles : IO FileTree := do
  let top ← IO.currentDir
  let above := top.components.length
  (← top.walkDir).foldlM (fun t p => do
    let place := p.components.drop above
    if ← p.isDir then
      return if (t.find? place).isSome then t else t.put place FileTree.empty
    else
      return t.put place (.file (← IO.FS.readBinFile p).toList)) FileTree.empty

/-- Makes a change below the current directory. -/
def makeChange : Change → IO Unit
  | .remove place => do
    try IO.FS.removeFile (fileName place) catch _ => IO.FS.removeDirAll (fileName place)
  | .makeDirectory place => IO.FS.createDir (fileName place)
  | .write place bytes => IO.FS.writeBinFile (fileName place) ⟨bytes.toArray⟩

/-- Runs the program on the current directory. -/
def main (arguments : List String) : IO UInt32 := do
  let before ← loadFiles
  let (ending, console) := CommandLine.run arguments before
  (console.files.changes [] (some before)).forM makeChange
  IO.print console.out
  IO.eprint console.err
  match ending with
  | .exit code => return code.toUInt32
  | .interrupted i =>
    IO.eprintln i.message
    return 1
