import ApiScribe.Document.Builder
import ApiScribe.Document.Table

/-!
# Scraping tables from a document

An entity is introduced by a heading with its name, followed, perhaps after some prose, by a table.
The number of header cells tells a DTO table from a method table.  A heading without a table is
replaced by the next one; a table without a heading, or one that does not have the expected form,
ends the scrape with the first fault found.
-/

namespace ApiScribe

/-- Why a document does not follow the convention. -/
inductive ScrapeError where
  | invalidColumnCount (count : Nat)
  | tableWithoutHeading
  | missingTableBody (table : String)
  | invalidRow (table : String) (row found expected : Nat)
  | emptyText (table : String) (row : Nat)
  /-- The file at a path cannot be read, for the given reason. -/
  | unreadable (path reason : String)
  deriving DecidableEq, Repr

namespace ScrapeError

/-- The error as shown to the user. -/
def message : ScrapeError → String
  | .invalidColumnCount count =>
    "Cannot determine the content type of a table with " ++ toString count ++
      " header column(s); expected 3 (DTO) or 4 (method)"
  | .tableWithoutHeading => "The document contains a table without a preceding heading"
  | .missingTableBody table => "Table '" ++ table ++ "' has no table body"
  | .invalidRow table row found expected =>
    "Row " ++ toString row ++ " of table '" ++ table ++ "' has " ++ toString found ++
      " data cell(s), expected " ++ toString expected
  | .emptyText table row =>
    "Row " ++ toString row ++ " of table '" ++ table ++ "' contains a cell without text"
  | .unreadable path reason => "Cannot read document '" ++ path ++ "': " ++ reason

/-- The word for the kind of the error. -/
def kind : ScrapeError → String
  | .invalidColumnCount _ => "invalid-column-count"
  | .tableWithoutHeading => "table-without-heading"
  | .missingTableBody _ => "missing-table-body"
  | .invalidRow .. => "invalid-row"
  | .emptyText .. => "empty-text-node"
  | .unreadable .. => "document-unreadable"

/-- The table at fault, where its name is known. -/
def table? : ScrapeError → Option String
  | .missingTableBody table => some table
  | .invalidRow table .. => some table
  | .emptyText table _ => some table
  | _ => none

/-- The number of header cells at fault. -/
def columnCount? : ScrapeError → Option Nat
  | .invalidColumnCount count => some count
  | _ => none

/-- The index of the row at fault. -/
def row? : ScrapeError → Option Nat
  | .invalidRow _ row .. => some row
  | .emptyText _ row => some row
  | _ => none

end ScrapeError

namespace Document

/-- The heading that names tables unless another is asked for. -/
def defaultHeading : String := "h4"

/-- The texts of the first `columns` data cells of a row. -/
def rowTexts (table : String) (columns index : Nat) (row : Node) :
    Except ScrapeError (List String) :=
  let cells := row.findAll "td"
  if cells.length < columns then .error (.invalidRow table index cells.length columns)
  else
    let texts := (cells.take columns).map Node.innerText
    if texts.any (· == "") then .error (.emptyText table index) else .ok texts

/-- The texts of consecutive rows, the first of which has the given index. -/
def rowsTexts (table : String) (columns : Nat) : Nat → List Node →
    Except ScrapeError (List (List String))
  | _, [] => .ok []
  | index, row :: rows =>
    match rowTexts table columns index row with
    | .error e => .error e
    | .ok texts => (rowsTexts table columns (index + 1) rows).map (texts :: ·)

/-- The texts of the rows of a table's first body. -/
def bodyTexts (table : String) (columns : Nat) (node : Node) :
    Except ScrapeError (List (List String)) :=
  match (node.findAll "tbody").head? with
  | none => .error (.missingTableBody table)
  | some body => rowsTexts table columns 0 (body.findAll "tr")

/-- A DTO row from its cells. -/
def dtoRow? : List String → Option DtoRow
  | [field, type, description] => some ⟨field, type, description⟩
  | _ => none

/-- A method row from its cells. -/
def methodRow? : List String → Option MethodRow
  | [parameter, type, required, description] => some ⟨parameter, type, required, description⟩
  | _ => none

/-- The table at an element, under the heading that precedes it. -/
def tableAt (heading : Option String) (node : Node) : Except ScrapeError Table :=
  let columns := (node.findAll "th").length
  if columns ≠ 3 ∧ columns ≠ 4 then .error (.invalidColumnCount columns)
  else
    match heading with
    | none => .error .tableWithoutHeading
    | some name =>
      (bodyTexts name columns node).map fun rows =>
        if columns = 3 then .dto name (rows.filterMap dtoRow?)
        else .method name (rows.filterMap methodRow?)

/-- The heading that an element sets: none if it has no text. -/
def headingText? (node : Node) : Option String :=
  if node.innerText = "" then none else some node.innerText

/-- Walks over headings and tables in document order, with the heading not used up yet. -/
def walk (tag : String) : Option String → List Node → Except ScrapeError (List Table)
  | _, [] => .ok []
  | heading, node :: nodes =>
    if node.isNamed tag then walk tag (headingText? node) nodes
    else
      match tableAt heading node with
      | .error e => .error e
      | .ok table => (walk tag none nodes).map (table :: ·)

/-- The headings and tables of a document, in document order. -/
def landmarks (tag : String) (document : List Node) : List Node :=
  (Node.nodesBelow document).filter fun n => n.isNamed tag || n.isNamed "table"

/-- The tables of a document. -/
def scrape (tag : String) (document : List Node) : Except ScrapeError (List Table) :=
  walk tag none (landmarks tag document)

end Document
end ApiScribe
