import ApiScribe.Document.Scrape
import ApiScribe.Proofs.Traversal

/-!
# The convention for tables

What a document has to look like for one of its tables to be read, said of the table element and
the landmark right before it: `Shows` gives the table that the element stands for, `Violates` the
first fault in it.  An element either shows one table or has one first fault, and this is what
`tableAt` finds (`tableAt_eq_ok`, `tableAt_eq_error`).
-/

namespace ApiScribe

namespace Document

/-! ### Rows -/

/-- The texts are those of the first data cells of a row, and none of them is empty. -/
def Cells (row : Node) (texts : List String) : Prop :=
  ((row.findAll "td").take texts.length).map Node.innerText = texts ∧ ∀ text ∈ texts, text ≠ ""

/-- A row has at least so many data cells, and the first of them have text. -/
def RowConforms (columns : Nat) (row : Node) : Prop :=
  columns ≤ (row.findAll "td").length ∧
    ∀ cell ∈ (row.findAll "td").take columns, cell.innerText ≠ ""

/-- The first fault of a row of a named table: too few data cells, or one without text. -/
inductive RowViolates (table : String) (columns index : Nat) (row : Node) : ScrapeError → Prop
  | short (h : (row.findAll "td").length < columns) :
    RowViolates table columns index row
      (.invalidRow table index (row.findAll "td").length columns)
  | empty (h : columns ≤ (row.findAll "td").length)
      (hempty : ∃ cell ∈ (row.findAll "td").take columns, cell.innerText = "") :
    RowViolates table columns index row (.emptyText table index)

variable {table name : String} {columns index : Nat} {row node : Node} {texts : List String}
  {e : ScrapeError}

/-- A row has so many data cells exactly if so many texts are taken from it. -/
theorem length_firstTexts_iff :
    (((row.findAll "td").take columns).map Node.innerText).length = columns ↔
      columns ≤ (row.findAll "td").length := by
  rw [List.length_map, List.length_take]
  omega

/-- A row lacks a text exactly if one of the cells asked for has none. -/
theorem any_firstTexts_iff :
    (((row.findAll "td").take columns).map Node.innerText).any (· == "") = true ↔
      ∃ cell ∈ (row.findAll "td").take columns, cell.innerText = "" := by
  simp only [List.any_map, List.any_eq_true, Function.comp_apply, beq_iff_eq]

theorem Cells.length_le (h : Cells row texts) : texts.length ≤ (row.findAll "td").length :=
  length_firstTexts_iff.1 (congrArg List.length h.1)

theorem Cells.innerText_ne (h : Cells row texts) :
    ∀ cell ∈ (row.findAll "td").take texts.length, cell.innerText ≠ "" := by
  intro cell hc
  exact h.2 _ (h.1 ▸ List.mem_map_of_mem hc)

/-- A row that conforms has the texts of its first cells. -/
theorem RowConforms.cells (h : RowConforms columns row) :
    Cells row (((row.findAll "td").take columns).map Node.innerText) := by
  refine ⟨by rw [length_firstTexts_iff.2 h.1], ?_⟩
  intro text ht
  obtain ⟨cell, hc, rfl⟩ := List.mem_map.1 ht
  exact h.2 cell hc

theorem rowConforms_iff :
    RowConforms columns row ↔ ∃ texts, texts.length = columns ∧ Cells row texts := by
  constructor
  · intro h
    exact ⟨_, length_firstTexts_iff.2 h.1, h.cells⟩
  · rintro ⟨texts, rfl, hcells⟩
    exact ⟨hcells.length_le, hcells.innerText_ne⟩

theorem rowTexts_eq_ok :
    rowTexts table columns index row = .ok texts ↔ texts.length = columns ∧ Cells row texts := by
  unfold rowTexts
  dsimp only
  split
  · next hshort =>
    constructor
    · intro h
      cases h
    · rintro ⟨rfl, hcells⟩
      exact absurd hcells.length_le (Nat.not_le.2 hshort)
  · next hlong =>
    split
    · next hempty =>
      obtain ⟨cell, hc, he⟩ := any_firstTexts_iff.1 hempty
      constructor
      · intro h
        cases h
      · rintro ⟨rfl, hcells⟩
        exact absurd he (hcells.innerText_ne cell hc)
    · next hfull =>
      constructor
      · intro h
        cases h
        have hconforms : RowConforms columns row :=
          ⟨Nat.not_lt.1 hlong, fun cell hc he => hfull (any_firstTexts_iff.2 ⟨cell, hc, he⟩)⟩
        exact ⟨length_firstTexts_iff.2 hconforms.1, hconforms.cells⟩
      · rintro ⟨rfl, hcells, -⟩
        rw [hcells]

theorem rowTexts_eq_error :
    rowTexts table columns index row = .error e ↔ RowViolates table columns index row e := by
  unfold rowTexts
  dsimp only
  split
  · next hshort =>
    constructor
    · intro h
      cases h
      exact .short hshort
    · intro h
      cases h with
      | short => rfl
      | empty hlong => exact absurd hshort (Nat.not_lt.2 hlong)
  · next hlong =>
    split
    · next hempty =>
      constructor
      · intro h
        cases h
        exact .empty (Nat.not_lt.1 hlong) (any_firstTexts_iff.1 hempty)
      · intro h
        cases h with
        | short hshort => exact absurd hshort hlong
        | empty => rfl
    · next hfull =>
      constructor
      · intro h
        cases h
      · intro h
        cases h with
        | short hshort => exact absurd hshort hlong
        | empty _ hempty => exact absurd (any_firstTexts_iff.2 hempty) hfull

/-! ### Bodies -/

/-- The texts are those of the rows of a table's first body. -/
def BodyShows (columns : Nat) (node : Node) (rows : List (List String)) : Prop :=
  ∃ body, (node.findAll "tbody").head? = some body ∧
    List.Forall₂ (fun row texts => texts.length = columns ∧ Cells row texts)
      (body.findAll "tr") rows

/-- A table has a body, and all rows of the first one conform. -/
def BodyConforms (columns : Nat) (node : Node) : Prop :=
  ∃ body, (node.findAll "tbody").head? = some body ∧
    ∀ row ∈ body.findAll "tr", RowConforms columns row

/-- The first fault in the body of a named table: there is none, or a row has a fault. -/
inductive BodyViolates (table : String) (columns : Nat) (node : Node) : ScrapeError → Prop
  | missing (h : node.findAll "tbody" = []) :
    BodyViolates table columns node (.missingTableBody table)
  | row {body row : Node} {before after : List Node} {e : ScrapeError}
      (hbody : (node.findAll "tbody").head? = some body)
      (hrows : body.findAll "tr" = before ++ row :: after)
      (hbefore : ∀ r ∈ before, RowConforms columns r)
      (hrow : RowViolates table columns before.length row e) :
    BodyViolates table columns node e

/-- Rows conform exactly if each has texts. -/
theorem forall_rowConforms_iff {rows : List Node} : (∀ row ∈ rows, RowConforms columns row) ↔
    ∃ texts,
      List.Forall₂ (fun row texts => texts.length = columns ∧ Cells row texts) rows texts := by
  simp only [rowConforms_iff]
  exact exists_forall₂_iff.symm

theorem bodyConforms_iff : BodyConforms columns node ↔ ∃ rows, BodyShows columns node rows := by
  unfold BodyConforms BodyShows
  constructor
  · rintro ⟨body, hbody, hrows⟩
    obtain ⟨texts, ht⟩ := forall_rowConforms_iff.1 hrows
    exact ⟨texts, body, hbody, ht⟩
  · rintro ⟨texts, body, hbody, ht⟩
    exact ⟨body, hbody, forall_rowConforms_iff.2 ⟨texts, ht⟩⟩

theorem rowsTexts_eq_mapM (rows : List Node) : rowsTexts table columns index rows =
    (rows.zipIdx index).mapM fun x => rowTexts table columns x.2 x.1 := by
  induction rows generalizing index with
  | nil => rfl
  | cons row rows ih =>
    rw [rowsTexts, List.zipIdx_cons, List.mapM_cons, ih]
    cases rowTexts table columns index row with
    | error e => rfl
    | ok texts => rfl

theorem bodyTexts_eq_ok {rows : List (List String)} :
    bodyTexts table columns node = .ok rows ↔ BodyShows columns node rows := by
  unfold bodyTexts BodyShows
  split
  · next hnone =>
    rw [hnone]
    simp
  · next body hbody =>
    rw [hbody, rowsTexts_eq_mapM, Outcome.mapM_eq_ok]
    -- the index of a row plays no part in its texts
    have hrows := List.forall₂_map_left_iff (f := Prod.fst) (u := rows)
      (R := fun row texts => texts.length = columns ∧ Cells row texts)
      (l := (body.findAll "tr").zipIdx)
    rw [List.zipIdx_map_fst] at hrows
    simp only [rowTexts_eq_ok, ← hrows]
    constructor
    · intro h
      exact ⟨body, rfl, h⟩
    · rintro ⟨body', hbody', h⟩
      cases hbody'
      exact h

theorem bodyTexts_eq_error :
    bodyTexts table columns node = .error e ↔ BodyViolates table columns node e := by
  unfold bodyTexts
  split
  · next hnone =>
    have hnil := List.head?_eq_none_iff.1 hnone
    constructor
    · intro h
      cases h
      exact .missing hnil
    · intro h
      cases h with
      | missing => rfl
      | row hbody =>
        rw [hnone] at hbody
        cases hbody
  · next body hbody =>
    rw [rowsTexts_eq_mapM, Outcome.mapM_eq_error]
    constructor
    · rintro ⟨before, x, after, hsplit, hbefore, hx⟩
      obtain ⟨rows, rest, hrows, rfl, hrest⟩ := List.zipIdx_eq_append_iff.1 hsplit
      obtain ⟨row, more, rfl, rfl, -⟩ := List.zipIdx_eq_cons_iff.1 hrest.symm
      rw [Nat.zero_add] at hx
      refine .row hbody hrows ?_ (rowTexts_eq_error.1 hx)
      intro r hr
      rw [← List.zipIdx_map_fst 0 rows] at hr
      obtain ⟨y, hy, rfl⟩ := List.mem_map.1 hr
      obtain ⟨texts, ht⟩ := hbefore y hy
      exact rowConforms_iff.2 ⟨texts, rowTexts_eq_ok.1 ht⟩
    · intro h
      cases h with
      | missing hnil =>
        rw [hnil] at hbody
        cases hbody
      | @row body' row rows more e hbody' hrows hbefore hrow =>
        rw [hbody] at hbody'
        cases hbody'
        refine ⟨rows.zipIdx 0, (row, rows.length), more.zipIdx (rows.length + 1), ?_, ?_, ?_⟩
        · rw [hrows, List.zipIdx_append, List.zipIdx_cons, Nat.zero_add]
        · intro y hy
          have hmem : y.1 ∈ rows := by
            rw [← List.zipIdx_map_fst 0 rows]
            exact List.mem_map_of_mem hy
          obtain ⟨texts, ht⟩ := rowConforms_iff.1 (hbefore _ hmem)
          exact ⟨texts, rowTexts_eq_ok.2 ht⟩
        · exact rowTexts_eq_error.2 hrow

end Document

/-! ### Tables -/

/-- The texts of a row. -/
def DtoRow.texts (row : DtoRow) : List String := [row.field, row.type, row.description]

/-- The texts of a row. -/
def MethodRow.texts (row : MethodRow) : List String :=
  [row.parameter, row.type, row.required, row.description]

namespace Table

/-- The name of a table. -/
def name : Table → String
  | .dto name _ => name
  | .method name _ => name

/-- The number of columns of a table. -/
def columns : Table → Nat
  | .dto _ _ => 3
  | .method _ _ => 4

/-- The texts of the rows of a table. -/
def cells : Table → List (List String)
  | .dto _ rows => rows.map DtoRow.texts
  | .method _ rows => rows.map MethodRow.texts

end Table

namespace Document

variable {tag name : String} {before : Option Node} {node : Node} {table : Table} {e : ScrapeError}

/-- The landmark right before an element is a heading with a text. -/
def Heads (tag : String) (before : Option Node) (name : String) : Prop :=
  ∃ heading, before = some heading ∧ heading.isNamed tag ∧ heading.innerText = name ∧ name ≠ ""

/-- A table element follows the convention: it has three or four header cells, a heading with a text
right before it, and a body whose rows have so many cells with text. -/
structure Conforms (tag : String) (before : Option Node) (node : Node) : Prop where
  columns : (node.findAll "th").length = 3 ∨ (node.findAll "th").length = 4
  heading : ∃ name, Heads tag before name
  body : BodyConforms (node.findAll "th").length node

/-- A table element stands for a table: its header cells are its columns, the heading right before
it is its name, and the texts of its rows are its cells. -/
structure Shows (tag : String) (before : Option Node) (node : Node) (table : Table) : Prop where
  columns : (node.findAll "th").length = table.columns
  heading : Heads tag before table.name
  body : BodyShows table.columns node table.cells

/-- The first fault of a table element. -/
inductive Violates (tag : String) (before : Option Node) (node : Node) : ScrapeError → Prop
  | columns (h : (node.findAll "th").length ≠ 3 ∧ (node.findAll "th").length ≠ 4) :
    Violates tag before node (.invalidColumnCount (node.findAll "th").length)
  | heading (hcolumns : (node.findAll "th").length = 3 ∨ (node.findAll "th").length = 4)
      (h : ∀ name, ¬ Heads tag before name) :
    Violates tag before node .tableWithoutHeading
  | body {name : String} {e : ScrapeError}
      (hcolumns : (node.findAll "th").length = 3 ∨ (node.findAll "th").length = 4)
      (hheading : Heads tag before name)
      (h : BodyViolates name (node.findAll "th").length node e) :
    Violates tag before node e

/-- The heading that a landmark leaves for the next one. -/
def headingAfter (tag : String) (before : Option Node) : Option String :=
  before.bind fun node => if node.isNamed tag then headingText? node else none

theorem headingAfter_eq_some : headingAfter tag before = some name ↔ Heads tag before name := by
  unfold headingAfter Heads headingText?
  cases before with
  | none => simp
  | some heading =>
    by_cases hn : heading.isNamed tag <;> by_cases ht : heading.innerText = "" <;> simp [hn, ht]
    rintro rfl
    exact ht

theorem headingAfter_eq_none :
    headingAfter tag before = none ↔ ∀ name, ¬ Heads tag before name := by
  simp only [Option.eq_none_iff_forall_ne_some, ne_eq, headingAfter_eq_some]

/-- A landmark names a table by one text only. -/
theorem Heads.unique {name' : String} (h : Heads tag before name) (h' : Heads tag before name') :
    name = name' := by
  obtain ⟨heading, rfl, -, rfl, -⟩ := h
  obtain ⟨_, heq, -, rfl, -⟩ := h'
  cases heq
  rfl

/-- Items that come from others are got back from them. -/
theorem map_filterMap_of_inverse {α β : Type} {f : α → β} {g : β → Option α} {bs : List β}
    (h : ∀ b ∈ bs, ∃ a, g b = some a ∧ f a = b) : (bs.filterMap g).map f = bs := by
  induction bs with
  | nil => rfl
  | cons b bs ih =>
    obtain ⟨⟨a, ha, hb⟩, hbs⟩ := List.forall_mem_cons.1 h
    rw [List.filterMap_cons_some ha, List.map_cons, hb, ih hbs]

theorem exists_dtoRow_of_length {texts : List String} (h : texts.length = 3) :
    ∃ row, dtoRow? texts = some row ∧ row.texts = texts := by
  match texts, h with
  | [field, type, description], _ => exact ⟨⟨field, type, description⟩, rfl, rfl⟩

theorem exists_methodRow_of_length {texts : List String} (h : texts.length = 4) :
    ∃ row, methodRow? texts = some row ∧ row.texts = texts := by
  match texts, h with
  | [parameter, type, required, description], _ =>
    exact ⟨⟨parameter, type, required, description⟩, rfl, rfl⟩

theorem filterMap_dtoRow?_map_texts (rows : List DtoRow) :
    (rows.map DtoRow.texts).filterMap dtoRow? = rows := by
  rw [List.filterMap_map]
  exact List.filterMap_some

theorem filterMap_methodRow?_map_texts (rows : List MethodRow) :
    (rows.map MethodRow.texts).filterMap methodRow? = rows := by
  rw [List.filterMap_map]
  exact List.filterMap_some

/-- All rows of a body have as many texts as there are columns, and no text is empty. -/
theorem BodyShows.row {columns : Nat} {rows : List (List String)}
    (h : BodyShows columns node rows) :
    ∀ texts ∈ rows, texts.length = columns ∧ ∀ text ∈ texts, text ≠ "" := by
  obtain ⟨body, -, hrows⟩ := h
  intro texts ht
  obtain ⟨row, -, hlength, -, hne⟩ := exists_of_mem_forall₂ hrows ht
  exact ⟨hlength, hne⟩

/-- The table of a name and the texts of its rows, each of which has as many as there are
columns. -/
theorem exists_table {columns : Nat} (hcolumns : columns = 3 ∨ columns = 4) (name : String)
    {rows : List (List String)} (h : ∀ texts ∈ rows, texts.length = columns) :
    ∃ table : Table, table.name = name ∧ table.columns = columns ∧ table.cells = rows ∧
      (if columns = 3 then Table.dto name (rows.filterMap dtoRow?)
        else .method name (rows.filterMap methodRow?)) = table := by
  rcases hcolumns with rfl | rfl
  · refine ⟨.dto name (rows.filterMap dtoRow?), rfl, rfl, ?_, rfl⟩
    exact map_filterMap_of_inverse fun texts ht => exists_dtoRow_of_length (h texts ht)
  · refine ⟨.method name (rows.filterMap methodRow?), rfl, rfl, ?_, rfl⟩
    exact map_filterMap_of_inverse fun texts ht => exists_methodRow_of_length (h texts ht)

/-- A table is that of its name and the texts of its rows. -/
theorem table_eq (table : Table) :
    (if table.columns = 3 then Table.dto table.name (table.cells.filterMap dtoRow?)
      else .method table.name (table.cells.filterMap methodRow?)) = table := by
  cases table with
  | dto name rows =>
    show Table.dto name ((rows.map DtoRow.texts).filterMap dtoRow?) = _
    rw [filterMap_dtoRow?_map_texts]
  | method name rows =>
    show Table.method name ((rows.map MethodRow.texts).filterMap methodRow?) = _
    rw [filterMap_methodRow?_map_texts]

theorem columns_eq (table : Table) : table.columns = 3 ∨ table.columns = 4 := by
  cases table with
  | dto => exact .inl rfl
  | method => exact .inr rfl

/-- A table element follows the convention exactly if it stands for a table. -/
theorem conforms_iff : Conforms tag before node ↔ ∃ table, Shows tag before node table := by
  constructor
  · rintro ⟨hcolumns, ⟨name, hname⟩, hbody⟩
    obtain ⟨rows, hrows⟩ := bodyConforms_iff.1 hbody
    obtain ⟨table, rfl, hc, rfl, -⟩ :=
      exists_table hcolumns name fun texts ht => (hrows.row texts ht).1
    exact ⟨table, hc.symm, hname, hc ▸ hrows⟩
  · rintro ⟨table, hcolumns, hname, hbody⟩
    refine ⟨?_, ⟨_, hname⟩, bodyConforms_iff.2 ⟨_, hcolumns ▸ hbody⟩⟩
    rw [hcolumns]
    exact columns_eq table

theorem tableAt_eq_ok :
    tableAt (headingAfter tag before) node = .ok table ↔ Shows tag before node table := by
  unfold tableAt
  dsimp only
  split
  · next hcolumns =>
    constructor
    · intro h
      cases h
    · intro h
      have hc := columns_eq table
      rw [← h.columns] at hc
      omega
  · next hcolumns =>
    split
    · next hnone =>
      constructor
      · intro h
        cases h
      · intro h
        exact absurd h.heading (headingAfter_eq_none.1 hnone _)
    · next name hname =>
      rw [headingAfter_eq_some] at hname
      rw [Outcome.map_eq_ok]
      constructor
      · rintro ⟨rows, hrows, htable⟩
        rw [bodyTexts_eq_ok] at hrows
        obtain ⟨table', rfl, hc, rfl, htable'⟩ := exists_table (by omega) name
          fun texts ht => (hrows.row texts ht).1
        obtain rfl := htable.symm.trans htable'
        exact ⟨hc.symm, hname, hc ▸ hrows⟩
      · intro h
        obtain rfl := hname.unique h.heading
        rw [h.columns]
        exact ⟨table.cells, bodyTexts_eq_ok.2 h.body, table_eq table⟩

theorem tableAt_eq_error :
    tableAt (headingAfter tag before) node = .error e ↔ Violates tag before node e := by
  unfold tableAt
  dsimp only
  split
  · next hcolumns =>
    constructor
    · intro h
      cases h
      exact .columns hcolumns
    · intro h
      cases h with
      | columns => rfl
      | heading hc => omega
      | body hc => omega
  · next hcolumns =>
    have hc : (node.findAll "th").length = 3 ∨ (node.findAll "th").length = 4 := by omega
    split
    · next hnone =>
      rw [headingAfter_eq_none] at hnone
      constructor
      · intro h
        cases h
        exact .heading hc hnone
      · intro h
        cases h with
        | columns h => exact absurd h hcolumns
        | heading => rfl
        | body _ hname => exact absurd hname (hnone _)
    · next name hname =>
      rw [headingAfter_eq_some] at hname
      rw [Outcome.map_eq_error, bodyTexts_eq_error]
      constructor
      · intro h
        exact .body hc hname h
      · intro h
        cases h with
        | columns h => exact absurd h hcolumns
        | heading _ h => exact absurd hname (h name)
        | body _ hname' h =>
          -- the fault names the table by its heading, which has one text
          obtain rfl := hname.unique hname'
          exact h

end Document
end ApiScribe
