import ApiScribe.Loading
import ApiScribe.Proofs.Document.Markup
import ApiScribe.Proofs.Document.Scraping

/-!
# Reading tables that were written by the convention

A table is written as a heading with its name and a table element below it, with a row of header
cells and a body that has a row of data cells for each row.  The document of tables that are
written one after the other is read as these tables (`scrapeText_join_written`).

The proof goes through the markup of a table, which has the same text (`toList_written`) and spells
the heading and the table element (`nodesOf_markup`).
-/

namespace ApiScribe

/-! ### Writing -/

/-- An element as text. -/
def Document.writtenElement (name : String) (content : List String) : String :=
  "<" ++ name ++ ">" ++ String.join content ++ "</" ++ name ++ ">"

namespace Table

open Document

/-- What the columns of a table are called. -/
def header : Table → List String
  | .dto _ _ => ["Field", "Type", "Description"]
  | .method _ _ => ["Parameter", "Type", "Required", "Description"]

/-- A row of cells as text. -/
def writtenRow (cell : String) (texts : List String) : String :=
  writtenElement "tr" (texts.map fun text => writtenElement cell [text])

/-- A table as text, with the heading that names it. -/
def written (table : Table) : String :=
  writtenElement defaultHeading [table.name] ++
    writtenElement "table" [writtenElement "thead" [writtenRow "th" table.header],
      writtenElement "tbody" (table.cells.map (writtenRow "td"))]

example : (dto "User" [⟨"id", "Integer", "Its number."⟩]).written =
    "<h4>User</h4><table><thead><tr><th>Field</th><th>Type</th><th>Description</th></tr></thead>" ++
      "<tbody><tr><td>id</td><td>Integer</td><td>Its number.</td></tr></tbody></table>" := by
  decide +kernel

/-! ### The markup of a table -/

def headingTag : TagName := { head := 'h', tail := ['4'] }

def tableTag : TagName := { head := 't', tail := ['a', 'b', 'l', 'e'] }

def headTag : TagName := { head := 't', tail := ['h', 'e', 'a', 'd'] }

def bodyTag : TagName := { head := 't', tail := ['b', 'o', 'd', 'y'] }

def rowTag : TagName := { head := 't', tail := ['r'] }

def headerTag : TagName := { head := 't', tail := ['h'] }

def cellTag : TagName := { head := 't', tail := ['d'] }

/-- An element with a text. -/
def labelled (n : TagName) (text : String) : Markup := .leaf n text.toList

/-- A row of cells. -/
def markupRow (cell : TagName) (texts : List String) : Markup :=
  .branch rowTag (texts.map (labelled cell))

/-- A table and the heading that names it. -/
def markup (table : Table) : List Markup :=
  [labelled headingTag table.name,
    .branch tableTag [.branch headTag [markupRow headerTag table.header],
      .branch bodyTag (table.cells.map (markupRow cellTag))]]

end Table

namespace Document

open Table

theorem Markup.charsOf_eq_flatMap (ms : List Markup) :
    Markup.charsOf ms = ms.flatMap Markup.chars := by
  induction ms with
  | nil => rfl
  | cons m ms ih => rw [Markup.charsOf, List.flatMap_cons, ih]

theorem Markup.nodesOf_eq_map (ms : List Markup) : Markup.nodesOf ms = ms.map Markup.node := by
  induction ms with
  | nil => rfl
  | cons m ms ih => rw [Markup.nodesOf, List.map_cons, ih]

theorem Markup.plainAll_iff {ms : List Markup} : Markup.PlainAll ms ↔ ∀ m ∈ ms, m.Plain := by
  induction ms with
  | nil => simp [Markup.PlainAll]
  | cons m ms ih => rw [Markup.PlainAll, List.forall_mem_cons, ih]

theorem toList_writtenElement (n : TagName) (content : List String) :
    (writtenElement n.name content).toList =
      Markup.startTag n ++ content.flatMap String.toList ++ Markup.endTag n := by
  simp [writtenElement, Markup.startTag, Markup.endTag, TagName.name, String.toList_join]

theorem toList_writtenElement_labelled (n : TagName) (text : String) :
    (writtenElement n.name [text]).toList = (labelled n text).chars := by
  rw [toList_writtenElement, labelled, Markup.chars, List.flatMap_singleton]

theorem toList_writtenRow (cell : TagName) (texts : List String) :
    (writtenRow cell.name texts).toList = (markupRow cell texts).chars := by
  have hname : rowTag.name = "tr" := rfl
  rw [writtenRow, ← hname, toList_writtenElement, markupRow, Markup.chars,
    Markup.charsOf_eq_flatMap, List.flatMap_map, List.flatMap_map]
  simp only [toList_writtenElement_labelled]

/-- A table is written as its markup. -/
theorem toList_written (table : Table) : table.written.toList = Markup.charsOf table.markup := by
  have hheading : headingTag.name = defaultHeading := rfl
  have htable : tableTag.name = "table" := rfl
  have hhead : headTag.name = "thead" := rfl
  have hbody : bodyTag.name = "tbody" := rfl
  have hheader : headerTag.name = "th" := rfl
  have hcell : cellTag.name = "td" := rfl
  rw [written, ← hheading, ← htable, ← hhead, ← hbody, ← hheader, ← hcell, String.toList_append,
    toList_writtenElement_labelled, toList_writtenElement]
  simp only [List.flatMap_cons, List.flatMap_nil, List.append_nil, toList_writtenElement,
    toList_writtenRow, List.flatMap_map]
  simp only [markup, Markup.charsOf_eq_flatMap, List.flatMap_cons, List.flatMap_nil, Markup.chars,
    List.flatMap_map, List.append_nil]

/-- The text of tables written one after the other is that of their markup. -/
theorem join_written (tables : List Table) :
    String.join (tables.map Table.written) =
      String.ofList (Markup.charsOf (tables.flatMap Table.markup)) := by
  apply String.toList_injective
  rw [String.toList_join, String.toList_ofList, List.flatMap_map, Markup.charsOf_eq_flatMap,
    List.flatMap_assoc]
  simp only [toList_written, Markup.charsOf_eq_flatMap]

/-! ### The elements of a table -/

/-- A row element. -/
def rowNode (cell : String) (texts : List String) : Node :=
  .element "tr" (texts.map (.labelled cell))

/-- The element of a table. -/
def tableNode (table : Table) : Node :=
  .element "table" [.element "thead" [rowNode "th" table.header],
    .element "tbody" (table.cells.map (rowNode "td"))]

/-- The heading of a table. -/
def headingNode (table : Table) : Node := .labelled defaultHeading table.name

theorem node_labelled (n : TagName) (text : String) :
    (labelled n text).node = .labelled n.name text := by
  rw [labelled, Markup.node, String.ofList_toList]
  rfl

theorem node_markupRow (cell : TagName) (texts : List String) :
    (markupRow cell texts).node = rowNode cell.name texts := by
  rw [markupRow, Markup.node, Markup.nodesOf_eq_map, List.map_map, rowNode]
  simp only [Function.comp_def, node_labelled]
  rfl

/-- The markup of a table spells its heading and its element. -/
theorem nodesOf_markup (table : Table) :
    Markup.nodesOf table.markup = [headingNode table, tableNode table] := by
  simp only [markup, Markup.nodesOf_eq_map, List.map_cons, List.map_nil, Markup.node, node_labelled,
    node_markupRow, List.map_map, Function.comp_def]
  rfl

/-- The names and cells of a table are plain. -/
structure PlainTable (table : Table) : Prop where
  name : PlainText table.name.toList
  cells : ∀ texts ∈ table.cells, ∀ text ∈ texts, PlainText text.toList

instance (table : Table) : Decidable (PlainTable table) :=
  decidable_of_iff (PlainText table.name.toList ∧
      ∀ texts ∈ table.cells, ∀ text ∈ texts, PlainText text.toList)
    ⟨fun ⟨h, h'⟩ => ⟨h, h'⟩, fun ⟨h, h'⟩ => ⟨h, h'⟩⟩

theorem plain_markupRow {cell : TagName} {texts : List String}
    (h : ∀ text ∈ texts, PlainText text.toList) : (markupRow cell texts).Plain := by
  show Markup.PlainAll (texts.map (labelled cell))
  rw [Markup.plainAll_iff, List.forall_mem_map]
  exact h

theorem plain_header (table : Table) : ∀ text ∈ table.header, PlainText text.toList := by
  cases table with
  | dto name rows =>
    show ∀ text ∈ ["Field", "Type", "Description"], PlainText text.toList
    decide
  | method name rows =>
    show ∀ text ∈ ["Parameter", "Type", "Required", "Description"], PlainText text.toList
    decide

theorem plainAll_markup {table : Table} (h : PlainTable table) : Markup.PlainAll table.markup := by
  have hrows : ∀ m ∈ table.cells.map (markupRow cellTag), m.Plain := by
    rw [List.forall_mem_map]
    exact fun texts ht => plain_markupRow (h.cells texts ht)
  exact ⟨h.name, ⟨⟨plain_markupRow (plain_header table), trivial⟩, Markup.plainAll_iff.2 hrows,
    trivial⟩, trivial⟩

/-! ### Finding the elements -/

variable {p : Node → Bool} {name : String} {texts : List String} {rows : List (List String)}

/-- Cells are found among themselves if their name is looked for. -/
theorem filter_cells (texts : List String) (b : Bool) (htext : ∀ text, p (.text .page text) = false)
    (hcell : ∀ text, p (.labelled name text) = b) :
    (Node.nodesBelow (texts.map (.labelled name))).filter p =
      if b then texts.map (.labelled name) else [] := by
  induction texts with
  | nil => simp [Node.nodesBelow]
  | cons text texts ih =>
    have hnodes : (Node.labelled name text).nodes = [.labelled name text, .text .page text] := rfl
    rw [List.map_cons, Node.nodesBelow, List.filter_append, ih, hnodes]
    cases b <;> simp [hcell, htext]

/-- Rows are found among themselves if their name is looked for and that of their cells is not. -/
theorem filter_rows (rows : List (List String)) (b : Bool)
    (htext : ∀ text, p (.text .page text) = false)
    (hcell : ∀ text, p (.labelled name text) = false)
    (hrow : ∀ nodes, p (.element "tr" nodes) = b) :
    (Node.nodesBelow (rows.map (rowNode name))).filter p =
      if b then rows.map (rowNode name) else [] := by
  induction rows with
  | nil => simp [Node.nodesBelow]
  | cons texts rows ih =>
    have hnodes : (rowNode name texts).nodes =
        rowNode name texts :: Node.nodesBelow (texts.map (.labelled name)) := rfl
    have hcells := filter_cells texts false htext hcell
    have hrow' : p (rowNode name texts) = b := hrow _
    rw [List.map_cons, Node.nodesBelow, List.filter_append, ih, hnodes, List.filter_cons, hrow',
      hcells]
    cases b <;> simp

/-- Everything below the element of a table. -/
theorem descendants_tableNode (table : Table) : (tableNode table).descendants =
    .element "thead" [rowNode "th" table.header] :: rowNode "th" table.header ::
      (Node.nodesBelow (table.header.map (.labelled "th")) ++
        .element "tbody" (table.cells.map (rowNode "td")) ::
          Node.nodesBelow (table.cells.map (rowNode "td"))) := by
  simp [tableNode, Node.descendants, Node.nodesBelow, Node.nodes, rowNode]

/-- Of what is below the element of a table, the header cells are found if their name is looked for,
and the body if its name is. -/
theorem filter_descendants (b b' : Bool) (htext : ∀ text, p (.text .page text) = false)
    (hth : ∀ text, p (.labelled "th" text) = b) (htbody : ∀ nodes, p (.element "tbody" nodes) = b')
    (hthead : ∀ nodes, p (.element "thead" nodes) = false)
    (htr : ∀ nodes, p (.element "tr" nodes) = false)
    (htd : ∀ text, p (.labelled "td" text) = false) (table : Table) :
    (tableNode table).descendants.filter p =
      (if b then table.header.map (.labelled "th") else []) ++
        if b' then [.element "tbody" (table.cells.map (rowNode "td"))] else [] := by
  have hheader := filter_cells table.header b htext hth
  have hrows := filter_rows table.cells false htext htd htr
  have hrow : p (rowNode "th" table.header) = false := htr _
  rw [descendants_tableNode, List.filter_cons, hthead, List.filter_cons, hrow, List.filter_append,
    hheader, List.filter_cons, htbody, hrows]
  cases b' <;> simp

theorem findAll_th (table : Table) :
    (tableNode table).findAll "th" = table.header.map (.labelled "th") :=
  (filter_descendants true false (fun _ => rfl) (fun _ => rfl) (fun _ => rfl) (fun _ => rfl)
    (fun _ => rfl) (fun _ => rfl) table).trans (List.append_nil _)

theorem findAll_tbody (table : Table) :
    (tableNode table).findAll "tbody" = [.element "tbody" (table.cells.map (rowNode "td"))] :=
  filter_descendants false true (fun _ => rfl) (fun _ => rfl) (fun _ => rfl) (fun _ => rfl)
    (fun _ => rfl) (fun _ => rfl) table

theorem findAll_tr : (Node.element "tbody" (rows.map (rowNode "td"))).findAll "tr" =
    rows.map (rowNode "td") :=
  filter_rows (p := Node.isNamed "tr") rows true (fun _ => rfl) (fun _ => rfl) fun _ => rfl

theorem findAll_td : (rowNode "td" texts).findAll "td" = texts.map (.labelled "td") :=
  filter_cells (p := Node.isNamed "td") texts true (fun _ => rfl) fun _ => rfl

/-- The nodes of tables that are written one after the other. -/
def nodesOfTables (tables : List Table) : List Node :=
  tables.flatMap fun table => [headingNode table, tableNode table]

/-- Headings and table elements are all there is to look at. -/
theorem landmarks_nodesOfTables (tables : List Table) :
    landmarks defaultHeading (nodesOfTables tables) = nodesOfTables tables := by
  have htable (table : Table) : ([headingNode table, tableNode table].flatMap Node.nodes).filter
      (fun n => n.isNamed defaultHeading || n.isNamed "table") =
        [headingNode table, tableNode table] := by
    -- no cell and no part of a table is named like a heading or a table
    have hbelow := filter_descendants
      (p := fun n => n.isNamed defaultHeading || n.isNamed "table") false false (fun _ => rfl)
      (fun _ => rfl) (fun _ => rfl) (fun _ => rfl) (fun _ => rfl) (fun _ => rfl) table
    have hheading : (headingNode table).nodes = [headingNode table, .text .page table.name] := rfl
    have hnodes : (tableNode table).nodes = tableNode table :: (tableNode table).descendants := rfl
    rw [List.flatMap_cons, List.flatMap_singleton, List.filter_append, hheading, hnodes,
      List.filter_cons, List.filter_cons, List.filter_cons, hbelow]
    rfl
  rw [landmarks, nodesBelow_eq_flatMap, nodesOfTables, List.flatMap_assoc, List.filter_flatMap]
  simp only [htable]

/-- Every table element has its heading right before it. -/
theorem tableElements_nodesOfTables (tables : List Table) :
    tableElements defaultHeading (nodesOfTables tables) =
      tables.map fun table => (some (headingNode table), tableNode table) := by
  -- what is carried into the walk is used up by no table: a heading comes first
  have hfilter (before : Option Node) :
      (withPredecessors before (nodesOfTables tables)).filter (fun x => x.2.isNamed "table") =
        tables.map fun table => (some (headingNode table), tableNode table) := by
    induction tables generalizing before with
    | nil => rfl
    | cons table tables ih =>
      have hnodes : nodesOfTables (table :: tables) =
          headingNode table :: tableNode table :: nodesOfTables tables := rfl
      rw [hnodes, withPredecessors_cons, withPredecessors_cons, List.filter_cons, List.filter_cons,
        ih, List.map_cons]
      rfl
  rw [tableElements, landmarks_nodesOfTables, hfilter]

/-! ### Reading -/

theorem innerText_labelled {text : String} (h : secludedElements.contains name = false) :
    (Node.labelled name text).innerText = text := by
  have hkind : kindOfTextIn name = .page := by
    rw [kindOfTextIn, h]
    rfl
  simp [Node.labelled, Node.innerText, hkind, Node.textOfAll, Node.textOf]

theorem PlainText.ne_empty {text : String} (h : PlainText text.toList) : text ≠ "" := by
  rintro rfl
  obtain ⟨c, hc, -⟩ := h.visible
  cases hc

theorem length_of_mem_cells (table : Table) :
    ∀ texts ∈ table.cells, texts.length = table.columns := by
  cases table with
  | dto name rows => exact List.forall_mem_map.2 fun row _ => rfl
  | method name rows => exact List.forall_mem_map.2 fun row _ => rfl

/-- A row element has the texts that it was made of. -/
theorem cells_rowNode (h : ∀ text ∈ texts, PlainText text.toList) :
    Cells (rowNode "td" texts) texts := by
  have htexts : (texts.map (.labelled "td")).map Node.innerText = texts := by
    rw [List.map_map]
    exact List.map_id'' (fun text => innerText_labelled rfl) texts
  refine ⟨?_, fun text ht => (h text ht).ne_empty⟩
  rw [findAll_td, List.take_of_length_le (Nat.le_of_eq (List.length_map _)), htexts]

/-- The element of a table stands for the table under its heading. -/
theorem shows_tableNode {table : Table} (h : PlainTable table) :
    Shows defaultHeading (some (headingNode table)) (tableNode table) table where
  columns := by
    rw [findAll_th, List.length_map]
    cases table with
    | dto name rows => rfl
    | method name rows => rfl
  heading := ⟨headingNode table, rfl, rfl, innerText_labelled rfl, h.name.ne_empty⟩
  body := by
    refine ⟨_, by rw [findAll_tbody, List.head?_cons], ?_⟩
    rw [findAll_tr, List.forall₂_map_left_iff, List.forall₂_same]
    exact fun texts ht => ⟨length_of_mem_cells table texts ht, cells_rowNode (h.cells texts ht)⟩

theorem scrape_nodesOfTables {tables : List Table} (h : ∀ table ∈ tables, PlainTable table) :
    scrape defaultHeading (nodesOfTables tables) = .ok tables := by
  have htag : defaultHeading ≠ "table" := by decide
  rw [scrape_eq_mapM htag, Outcome.mapM_eq_ok, tableElements_nodesOfTables,
    List.forall₂_map_left_iff, List.forall₂_same]
  exact fun table ht => tableAt_eq_ok.2 (shows_tableNode (h table ht))

/-- The document of tables that are written one after the other is read as these tables, if their
names and cells have no brackets and no references and are more than blanks. -/
theorem scrapeText_join_written {tables : List Table} (h : ∀ table ∈ tables, PlainTable table) :
    scrapeText defaultHeading (String.join (tables.map Table.written)) = .ok tables := by
  have hplain : Markup.PlainAll (tables.flatMap Table.markup) := by
    rw [Markup.plainAll_iff]
    intro m hm
    obtain ⟨table, ht, hm⟩ := List.mem_flatMap.1 hm
    exact Markup.plainAll_iff.1 (plainAll_markup (h table ht)) m hm
  have hnodes : Markup.nodesOf (tables.flatMap Table.markup) = nodesOfTables tables := by
    rw [Markup.nodesOf_eq_map, List.map_flatMap, nodesOfTables]
    simp only [← Markup.nodesOf_eq_map, nodesOf_markup]
  rw [scrapeText, join_written, Markup.parse_charsOf hplain, hnodes]
  show (scrape defaultHeading (nodesOfTables tables)).mapError Failure.rejected = .ok tables
  rw [scrape_nodesOfTables h]
  rfl

/-- A table with texts that hold a closing bracket, quotes, breaks and blanks. -/
def unusualTables : List Table :=
  [.method "send\n" [⟨"a>b", " \"x\" ", "é\r\n", "\t]]>"⟩], .dto "/td>" []]

/-- The unusual tables are read as they are. -/
theorem scrapeText_join_written_unusual : (∀ table ∈ unusualTables, PlainTable table) ∧
    scrapeText defaultHeading (String.join (unusualTables.map Table.written)) =
      .ok unusualTables := by
  have h : ∀ table ∈ unusualTables, PlainTable table := by decide
  exact ⟨h, scrapeText_join_written h⟩

end Document
end ApiScribe
