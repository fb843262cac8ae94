import ApiScribe.Generation.ResolveError
import ApiScribe.Text.Quoted

/-!
# Collections of generated files

Generated files are kept in the order in which they were added, and no two share a filename: one
would silently overwrite the other.  A failing step leaves a collection as it was, which here is
to say that it gives no new one.
-/

namespace ApiScribe

/-- A generated file: its path below the output directory, and its text. -/
structure TargetFile where
  filename : String
  content : String
  deriving DecidableEq, Repr, Inhabited

/-- Generated files with distinct filenames. -/
structure TargetFiles where
  toList : List TargetFile
  distinct : (toList.map TargetFile.filename).Nodup
  deriving DecidableEq

namespace TargetFiles

/-- The collection without files. -/
def empty : TargetFiles := ⟨[], List.nodup_nil⟩

instance : Inhabited TargetFiles := ⟨empty⟩

/-- The filenames in order. -/
def filenames (t : TargetFiles) : List String := t.toList.map TargetFile.filename

/-- The number of files. -/
def size (t : TargetFiles) : Nat := t.toList.length

/-- A file of the given name is in the collection. -/
def contains (t : TargetFiles) (filename : String) : Bool := t.filenames.contains filename

/-- The text of the file of the given name. -/
def get? (t : TargetFiles) (filename : String) : Option String :=
  (t.toList.find? (·.filename == filename)).map TargetFile.content

/-- Adds a file. -/
def insert (t : TargetFiles) (file : TargetFile) : Except ResolveError TargetFiles :=
  if h : file.filename ∈ t.filenames then .error (.duplicateFilename file.filename)
  else .ok ⟨t.toList ++ [file], by
    simp only [List.map_append, List.map_cons, List.map_nil, List.nodup_append]
    refine ⟨t.distinct, by simp, ?_⟩
    intro a ha b hb
    simp only [List.mem_cons, List.not_mem_nil, or_false] at hb
    rintro rfl
    exact h (hb ▸ ha)⟩

/-- Adds files one by one. -/
def insertEach (t : TargetFiles) : List TargetFile → Except ResolveError TargetFiles
  | [] => .ok t
  | file :: files =>
    match t.insert file with
    | .ok t => t.insertEach files
    | .error e => .error e

/-- The collection of the given files. -/
def ofList (files : List TargetFile) : Except ResolveError TargetFiles := empty.insertEach files

/-- The filenames of `other` that are in the collection already. -/
def shared (t other : TargetFiles) : List String := other.filenames.filter (t.filenames.contains ·)

/-- Adds every file of `other`, or none of them. -/
def insertAll (t other : TargetFiles) : Except ResolveError TargetFiles :=
  if h : t.shared other = [] then
    .ok ⟨t.toList ++ other.toList, by
      rw [List.map_append, List.nodup_append]
      refine ⟨t.distinct, other.distinct, ?_⟩
      intro a ha b hb
      rintro rfl
      have := List.filter_eq_nil_iff.1 h a hb
      simp [filenames, ha] at this⟩
  else .error (.duplicateFilenames (t.shared other))

/-- The collection as shown to a programmer. -/
def shown (t : TargetFiles) : String :=
  "TargetFiles([" ++ ", ".intercalate (t.filenames.map Text.quotedString) ++ "])"

end TargetFiles
end ApiScribe
