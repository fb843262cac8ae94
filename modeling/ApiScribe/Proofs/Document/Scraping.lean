import ApiScribe.Proofs.Document.Convention

/-!
# The tables of a document

The walk over a document carries the last heading along and uses it up at a table.  What it carries
is decided by the landmark right before: it is a heading with a text, or there is nothing to carry.
So the walk comes to looking at each table element with its predecessor alone (`walk_eq_mapM`), and
a document is read exactly if all of its table elements follow the convention (`scrape_iff`).
-/

namespace ApiScribe.Document

/-- Items, each with the one right before it. -/
def withPredecessors {α : Type} (before : Option α) (items : List α) : List (Option α × α) :=
  (before :: items.map some).zip items

/-- The table elements of a document, each with the landmark right before it. -/
def tableElements (tag : String) (document : List Node) : List (Option Node × Node) :=
  (withPredecessors none (landmarks tag document)).filter fun x => x.2.isNamed "table"

theorem withPredecessors_cons {α : Type} (before : Option α) (item : α) (items : List α) :
    withPredecessors before (item :: items) =
      (before, item) :: withPredecessors (some item) items := rfl

theorem nodesBelow_eq_flatMap (nodes : List Node) :
    Node.nodesBelow nodes = nodes.flatMap Node.nodes := by
  induction nodes with
  | nil => rfl
  | cons node nodes ih => rw [Node.nodesBelow, List.flatMap_cons, ih]

variable {tag : String} {document : List Node}

/-- An element has one name. -/
theorem not_isNamed {node : Node} {other : String} (hne : tag ≠ other) (h : node.isNamed tag) :
    ¬ node.isNamed other := by
  cases node with
  | element name children =>
    intro h'
    exact hne ((beq_iff_eq.1 h).symm.trans (beq_iff_eq.1 h'))
  | text kind content => cases h

/-- The walk looks at each table element with its predecessor alone. -/
theorem walk_eq_mapM (htag : tag ≠ "table") {before : Option Node} {nodes : List Node}
    (h : ∀ node ∈ nodes, node.isNamed tag ∨ node.isNamed "table") :
    walk tag (headingAfter tag before) nodes =
      ((withPredecessors before nodes).filter fun x => x.2.isNamed "table").mapM fun x =>
        tableAt (headingAfter tag x.1) x.2 := by
  induction nodes generalizing before with
  | nil => rfl
  | cons node nodes ih =>
    obtain ⟨hnode, hnodes⟩ := List.forall_mem_cons.1 h
    have hrest : walk tag (headingAfter tag (some node)) nodes = _ := ih hnodes
    rw [withPredecessors_cons, walk]
    -- a heading is carried on and asks for nothing; a table uses up what is carried
    by_cases hn : node.isNamed tag
    · have hheading : headingAfter tag (some node) = headingText? node := if_pos hn
      have hfilter : ¬ (before, node).2.isNamed "table" := not_isNamed htag hn
      rw [if_pos hn, List.filter_cons, if_neg hfilter, ← hrest, hheading]
    · have hheading : headingAfter tag (some node) = none := if_neg hn
      have hfilter : (before, node).2.isNamed "table" := hnode.resolve_left hn
      rw [if_neg hn, List.filter_cons, if_pos hfilter, List.mapM_cons, ← hrest, hheading]
      cases tableAt (headingAfter tag before) node with
      | error e => rfl
      | ok table => rfl

theorem scrape_eq_mapM (htag : tag ≠ "table") :
    scrape tag document = (tableElements tag document).mapM fun x =>
      tableAt (headingAfter tag x.1) x.2 := by
  show walk tag (headingAfter tag none) (landmarks tag document) = _
  apply walk_eq_mapM htag
  intro node hn
  exact Bool.or_eq_true_iff.1 (List.mem_filter.1 hn).2

/-- The tables of a document: the headings named `tag` and the tables of it, in document order, are
its landmarks.

A document is read if and only if each of its table elements follows the convention.  It then has
one table for each of them in order, that which the element stands for with the landmark right
before it; no name and no cell of it is empty.  Otherwise the error is the first fault of the first
table element that does not follow the convention. -/
theorem scrape_iff (htag : tag ≠ "table") :
    ((∃ tables, scrape tag document = .ok tables) ↔
      ∀ x ∈ tableElements tag document, Conforms tag x.1 x.2) ∧
    (∀ tables, scrape tag document = .ok tables ↔
      List.Forall₂ (fun x table => Shows tag x.1 x.2 table) (tableElements tag document) tables) ∧
    (∀ tables, scrape tag document = .ok tables → ∀ table ∈ tables,
      table.name ≠ "" ∧ ∀ texts ∈ table.cells, texts.length = table.columns ∧
        ∀ text ∈ texts, text ≠ "") ∧
    ∀ e, scrape tag document = .error e ↔ ∃ before x after,
      tableElements tag document = before ++ x :: after ∧
        (∀ y ∈ before, Conforms tag y.1 y.2) ∧ Violates tag x.1 x.2 e := by
  have hok : ∀ tables, scrape tag document = .ok tables ↔
      List.Forall₂ (fun x table => Shows tag x.1 x.2 table) (tableElements tag document)
        tables := by
    intro tables
    rw [scrape_eq_mapM htag, Outcome.mapM_eq_ok]
    simp only [tableAt_eq_ok]
  refine ⟨?_, hok, ?_, ?_⟩
  · simp only [hok, conforms_iff]
    exact exists_forall₂_iff
  · intro tables h table ht
    obtain ⟨x, -, hshows⟩ := exists_of_mem_forall₂ ((hok tables).1 h) ht
    obtain ⟨-, -, -, -, hname⟩ := hshows.heading
    exact ⟨hname, hshows.body.row⟩
  · intro e
    rw [scrape_eq_mapM htag, Outcome.mapM_eq_error]
    simp only [tableAt_eq_ok, tableAt_eq_error, conforms_iff]

/-- An element that holds a text of the page. -/
def Node.labelled (name text : String) : Node := .element name [.text .page text]

/-- A heading without a table, and a DTO table of one row under the heading after it. -/
def sampleDocument : List Node :=
  [.labelled "h4" "Changes", .labelled "p" "None.", .labelled "h4" "User",
    .element "table"
      [.element "tr" (["Field", "Type", "Description"].map (.labelled "th")),
        .element "tbody" [.element "tr" (["id", "Integer", "Its number."].map (.labelled "td"))]]]

/-- The table of the sample is read and follows the convention. -/
theorem scrape_iff_sample : "h4" ≠ "table" ∧
    scrape "h4" sampleDocument = .ok [.dto "User" [⟨"id", "Integer", "Its number."⟩]] ∧
      ∀ x ∈ tableElements "h4" sampleDocument, Conforms "h4" x.1 x.2 := by
  have htag : "h4" ≠ "table" := by decide
  have hread : scrape "h4" sampleDocument =
      .ok [.dto "User" [⟨"id", "Integer", "Its number."⟩]] := by rfl
  exact ⟨htag, hread, (scrape_iff htag).1.1 ⟨_, hread⟩⟩

end ApiScribe.Document
