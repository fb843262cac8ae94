import ApiScribe.Loading
import ApiScribe.Proofs.Document.Written
import ApiScribe.Proofs.FileTree.Aside
import ApiScribe.Proofs.Json.Characters
import ApiScribe.Proofs.Optionality
import ApiScribe.Proofs.StoredModel
import ApiScribe.Proofs.Utf8

/-!
# Models and configurations in files

A model that is stored where a path leads is loaded from there again (`Artifact.load_of_laid`), and
storing it changes nothing else (`Artifact.exists_toFile`).  The way through the file changes
nothing in the text of a model: it is printable ASCII with line ends that are kept.
-/

namespace ApiScribe

open FileTree (Laid)
open Place (ofNames Visits)

variable {t t' : FileTree} {p : Path} {place : Place}

/-! ### Files -/

namespace FileTree

/-- A file that holds the bytes of a text without carriage returns is read as that text. -/
theorem readText_of_encoded {cs : List Char} (hplace : t.locate p = .ok place)
    (hfile : t.entryAt? place = some (.file (Text.encodeUtf8 cs))) (hcr : '\r' ∉ cs) :
    t.readText p = .ok (String.ofList cs) := by
  have hfound : t.find? place = some (.file (Text.encodeUtf8 cs)) := by
    rw [entryAt?, Option.map_eq_some_iff] at hfile
    obtain ⟨inner, hi, htop⟩ := hfile
    cases inner with
    | directory entries => cases htop
    | file bytes =>
      cases htop
      exact hi
  have hread : t.read p = .ok (Text.encodeUtf8 cs) := by
    unfold read
    rw [hplace, Outcome.ok_bind, hfound]
    rfl
  unfold readText
  rw [hread, Outcome.ok_bind, Text.decodeUtf8_encodeUtf8]
  dsimp only
  rw [Text.unifyLineEnds_eq_self hcr]
  rfl

theorem write_of_locate {bytes : List UInt8} (hplace : t.locate p = .ok place)
    (hfree : t.entryAt? place ≠ some .directory) :
    t.write p bytes = .ok (t.put place (.file bytes)) := by
  unfold write
  rw [hplace, Outcome.ok_bind]
  split
  · next entries hd => exact absurd (entryAt?_eq_directory.2 ⟨entries, hd⟩) hfree
  · rfl

/-- The directory above the place that a path leads to is there, and making it changes nothing. -/
theorem Action.exists_above (hplace : t.locate p = .ok place) (hnames : p.names ≠ []) :
    ∃ t', Action.Succeeds (Action.makeDirectories true p.parent) t () t' ∧
      ∀ q, t'.entryAt? q = t.entryAt? q := by
  obtain ⟨hrelative, hwalk, hpass⟩ := walkable_of_locate hplace
  obtain ⟨slashes, names⟩ := p
  obtain rfl : slashes = 0 := hrelative
  obtain ⟨above, name, rfl⟩ : ∃ above name, names = above ++ [name] :=
    ⟨_, _, (List.dropLast_concat_getLast hnames).symm⟩
  have hparent : (⟨0, above ++ [name]⟩ : Path).parent = ⟨0, above⟩ := by
    rw [Path.parent, List.dropLast_concat]
  -- the path leads somewhere, so all that it passes are directories already
  have habove : ∀ q, Visits above q → t.entryAt? q = some .directory :=
    fun q hq => hpass q (Place.passes_concat.2 hq)
  obtain ⟨t', hs, hm⟩ := Action.succeeds_makeDirectories hwalk.of_append
    (fun q hq => .inl (habove q (Place.visits_iff.2 (.inl hq))))
    (.inr ⟨habove _ (Place.visits_iff.2 (.inr rfl)), rfl⟩) (by intro h; cases h)
  rw [hparent]
  refine ⟨t', hs, fun q => ?_⟩
  by_cases hq : Visits above q
  · rw [hm.visited q hq, habove q hq]
  · exact hm.elsewhere q hq

/-- Where a path leads, a file is stored without a change elsewhere. -/
theorem Action.exists_stored (bytes : List UInt8) (hplace : t.locate p = .ok place)
    (hnames : p.names ≠ []) (hfree : t.entryAt? place ≠ some .directory) :
    ∃ t', Action.Succeeds (Action.store p bytes) t () t' ∧ Laid t place (.file bytes) t' := by
  obtain ⟨t₁, hs₁, hsame⟩ := exists_above hplace hnames
  have hplace₁ := locate_mono (fun q hq => (hsame q).trans hq) hplace
  have hfree₁ := (hsame place).trans_ne hfree
  have hlaid := laid_put (.file bytes) hplace₁ hfree₁ fun _ _ => rfl
  refine ⟨t₁.put place (.file bytes), ?_, ⟨hfree, hlaid.here, ?_⟩⟩
  · exact hs₁.bind (Action.succeeds_ofStep (write_of_locate hplace₁ hfree₁))
  · intro other hother
    rw [hlaid.elsewhere other hother, hsame]

end FileTree

/-! ### Configurations -/

/-- The characters of a text that is put together. -/
theorem toList_append_of_eq {s s' : String} {cs cs' : List Char} (h : s.toList = cs)
    (h' : s'.toList = cs') : (s ++ s').toList = cs ++ cs' := by
  rw [String.toList_append, h, h']

/-- The configuration in a text, by its characters. -/
theorem Configuration.read_of_toList {label text : String} {cs : List Char} {c : Configuration}
    (htext : text.toList = cs)
    (h : (Yaml.read cs).toOption.map (fun d => (ofDatum label d).map replaceUnpaired) =
      some (.ok c)) : read label text = .ok c := by
  obtain ⟨d, hd, hc⟩ := Option.map_eq_some_iff.1 h
  unfold read parse
  rw [htext, Outcome.toOption_eq_some.1 hd]
  exact hc

/-- The configuration in a file is the one in its text. -/
theorem Configuration.fromFile_of_encoded {text : String} {c : Configuration}
    (hplace : t.locate p = .ok place)
    (hfile : t.entryAt? place = some (.file (Text.encodeUtf8 text.toList)))
    (hcr : '\r' ∉ text.toList) (hread : read p.text text = .ok c) : fromFile t p = .ok c := by
  have htext := FileTree.readText_of_encoded hplace hfile hcr
  rw [String.ofList_toList] at htext
  unfold fromFile parseFile
  rw [htext]
  exact hread

/-! ### Models -/

namespace Artifact

/-- What a file holds that a model is stored in. -/
def fileText (api : Api) : List Char := Json.text fileIndent (ofVersioned (ofApi api)) ++ ['\n']

theorem cr_not_mem_fileText {api : Api} (h : ∀ m ∈ api.members, Storable m) :
    '\r' ∉ fileText api := by
  intro hc
  rcases List.mem_append.1 hc with hc | hc
  · exact absurd (Json.isWritten_text fileIndent (textual_of_storable h) _ hc) (by decide)
  · exact absurd hc (by decide)

/-- A model whose types can all be stored is stored where a path leads, without a change
elsewhere. -/
theorem exists_toFile {api : Api}
    (hdepth : ∀ m ∈ api.members, m.type.depth ≤ TypeDescriptor.depthLimit)
    (hplace : t.locate p = .ok place) (hnames : p.names ≠ [])
    (hfree : t.entryAt? place ≠ some .directory) :
    ∃ t', toFile api p t = (.ok (), t') ∧
      Laid t place (.file (Text.encodeUtf8 (fileText api))) t' := by
  obtain ⟨t', hs, hlaid⟩ := FileTree.Action.exists_stored (Text.encodeUtf8 (fileText api)) hplace
    hnames hfree
  refine ⟨t', ?_, hlaid⟩
  have hw : write fileIndent api = .ok _ := write_eq_ok.2 ⟨hdepth, rfl⟩
  unfold toFile
  rw [hw]
  dsimp only
  rw [String.toList_ofList]
  unfold FileTree.Action.Succeeds fileText at hs
  rw [hs]

/-- A model with a type of too many wrappers is not stored, and nothing changes. -/
theorem exists_toFile_of_deep {api : Api} {m : Member} (hm : m ∈ api.members)
    (hdepth : TypeDescriptor.depthLimit < m.type.depth) (hplace : t.locate p = .ok place)
    (hnames : p.names ≠ []) :
    ∃ t', toFile api p t = (.error (.interrupted .typeTooDeep), t') ∧
      ∀ q, t'.entryAt? q = t.entryAt? q := by
  obtain ⟨t', hs, hsame⟩ := FileTree.Action.exists_above hplace hnames
  refine ⟨t', ?_, hsame⟩
  unfold toFile
  rw [write_eq_error hm hdepth]
  dsimp only
  unfold FileTree.Action.Succeeds at hs
  rw [hs]

/-- A stored model is loaded from its file. -/
theorem load_of_laid {api : Api} {heading : String} (h : ∀ m ∈ api.members, Storable m)
    (hsuffix : p.suffix = suffix) (hplace : t.locate p = .ok place)
    (hlaid : Laid t place (.file (Text.encodeUtf8 (fileText api))) t') :
    Api.load t' heading p = .ok api := by
  have htext := FileTree.readText_of_encoded (hlaid.locate_eq_ok.2 hplace) hlaid.here
    (cr_not_mem_fileText h)
  have hread : fromFile t' p = .ok api := by
    unfold fromFile
    rw [Outcome.mapError_eq_ok.2 htext, Outcome.ok_bind, fileText, read_written_append h rfl]
  unfold Api.load
  rw [if_pos hsuffix, hread]
  rfl

end Artifact

/-- What is loaded, from a document or a stored model, can be stored, unless a type has too many
wrappers. -/
theorem Api.admissible_of_load {api : Api} {heading : String} (h : Api.load t heading p = .ok api) :
    ∀ m ∈ api.members, m.type.Admissible := by
  unfold Api.load at h
  split at h
  · obtain ⟨text, -, hr⟩ := Outcome.bind_eq_ok.1 (Outcome.mapError_eq_ok.1 h)
    exact fun m hm => (Artifact.storable_of_readWithin hr m hm).1
  · obtain ⟨text, -, hd⟩ := Outcome.bind_eq_ok.1 (Outcome.mapError_eq_ok.1 h)
    obtain ⟨tables, -, rfl⟩ := Outcome.map_eq_ok.1 hd
    exact Api.admissible_ofTables tables

/-! ### Documents -/

namespace Document

/-- The document of a table is read as that table. -/
theorem scrapeText_written {table : Table} (h : PlainTable table) :
    scrapeText defaultHeading table.written = .ok [table] := by
  have htext : table.written = String.ofList (Markup.charsOf table.markup) := by
    rw [← toList_written, String.ofList_toList]
  have hnodes : nodesOfTables [table] = [headingNode table, tableNode table] := rfl
  unfold scrapeText
  rw [htext, Markup.parse_charsOf (plainAll_markup h), nodesOf_markup, ← hnodes]
  dsimp only
  rw [scrape_nodesOfTables (List.forall_mem_singleton.2 h)]
  rfl

/-- A document has no carriage return if the texts in it have none. -/
theorem cr_notMem_written {table : Table} (hname : '\r' ∉ table.name.toList)
    (hcells : ∀ texts ∈ table.cells, ∀ text ∈ texts, '\r' ∉ text.toList) :
    '\r' ∉ table.written.toList := by
  have helement {name : String} {content : List String} (h : '\r' ∉ name.toList)
      (hcontent : ∀ s ∈ content, '\r' ∉ s.toList) :
      '\r' ∉ (writtenElement name content).toList := by
    simpa [writtenElement, h] using hcontent
  have hrow {cell : String} {texts : List String} (h : '\r' ∉ cell.toList)
      (htexts : ∀ text ∈ texts, '\r' ∉ text.toList) :
      '\r' ∉ (Table.writtenRow cell texts).toList := by
    refine helement (by decide) (List.forall_mem_map.2 fun text htext => helement h ?_)
    exact List.forall_mem_singleton.2 (htexts text htext)
  have hheader : ∀ text ∈ table.header, '\r' ∉ text.toList := by
    cases table <;> simp [Table.header]
  have hhead : '\r' ∉ (writtenElement "thead" [Table.writtenRow "th" table.header]).toList :=
    helement (by decide) (List.forall_mem_singleton.2 (hrow (by decide) hheader))
  have hbody : '\r' ∉
      (writtenElement "tbody" (table.cells.map (Table.writtenRow "td"))).toList :=
    helement (by decide) (List.forall_mem_map.2 fun texts ht => hrow (by decide) (hcells texts ht))
  rw [Table.written, String.toList_append, List.mem_append, not_or]
  refine ⟨helement (by decide) (List.forall_mem_singleton.2 hname), helement (by decide) ?_⟩
  exact List.forall_mem_cons.2 ⟨hhead, List.forall_mem_singleton.2 hbody⟩

/-- The model of a table is loaded from a file that holds its document. -/
theorem load_written {table : Table} (h : PlainTable table) (hcr : '\r' ∉ table.written.toList)
    (hsuffix : p.suffix ≠ Artifact.suffix) (hplace : t.locate p = .ok place)
    (hfile : t.entryAt? place = some (.file (Text.encodeUtf8 table.written.toList))) :
    Api.load t defaultHeading p = .ok (Api.ofTables [table]) := by
  have htext := FileTree.readText_of_encoded hplace hfile hcr
  rw [String.ofList_toList] at htext
  have hread : fromFile t p = .ok table.written := by
    unfold fromFile
    rw [htext]
    rfl
  have hmodel : Api.ofDocument defaultHeading table.written = .ok (Api.ofTables [table]) := by
    unfold Api.ofDocument
    rw [scrapeText_written h]
    rfl
  unfold Api.load
  rw [if_neg hsuffix, hread, Except.bind, hmodel]
  rfl

end Document
end ApiScribe
