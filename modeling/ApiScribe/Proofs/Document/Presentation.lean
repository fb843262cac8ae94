import Mathlib.Data.List.Forall2
import Mathlib.Logic.Relation
import ApiScribe.Proofs.Document.Scraping

/-!
# Markup for presentation alone

A document may be presented in many ways: with prose around its headings and tables, and with parts
of its texts in elements of their own.  None of this changes what is read from it
(`scrape_of_edits`).

A subtree without headings and tables that is inserted outside of them (`Inserts`) leaves the
landmarks as they are.  An element put around a part of the contents of another one (`Wraps`) is
seen by no search for the names of the convention: such a search finds the same elements, of which
each has the same text and is the same or has the new element somewhere below it (`Rewrapped`).
-/

namespace ApiScribe.Document

/-! ### Edits -/

/-- The same forest, but for texts that are cut in two. -/
inductive Cut : List Node → List Node → Prop
  | nil : Cut [] []
  | keep (node : Node) {nodes cut : List Node} (h : Cut nodes cut) :
    Cut (node :: nodes) (node :: cut)
  | text {kind : TextKind} {whole left right : String} {nodes cut : List Node}
      (hwhole : whole = left ++ right) (h : Cut (.text kind right :: nodes) cut) :
    Cut (.text kind whole :: nodes) (.text kind left :: cut)

/-- A subtree is inserted in a forest, outside of the elements named `tag` and the tables. -/
inductive Inserts (tag : String) (subtree : Node) : List Node → List Node → Prop
  | here {nodes before after : List Node} (hcut : Cut nodes (before ++ after)) :
    Inserts tag subtree nodes (before ++ subtree :: after)
  | inside (before after : List Node) {name : String} {children children' : List Node}
      (hname : name ≠ tag ∧ name ≠ "table") (h : Inserts tag subtree children children') :
    Inserts tag subtree (before ++ .element name children :: after)
      (before ++ .element name children' :: after)

/-- Consecutive nodes of a forest, which may begin and end within a text, are put in a new element
named `name`. -/
inductive Wraps (name : String) : List Node → List Node → Prop
  | here {nodes before part after : List Node} (hcut : Cut nodes (before ++ (part ++ after))) :
    Wraps name nodes (before ++ .element name part :: after)
  | inside (before after : List Node) {outer : String} {children children' : List Node}
      (h : Wraps name children children') :
    Wraps name (before ++ .element outer children :: after)
      (before ++ .element outer children' :: after)

/-- Elements of the name have no meaning for the headings named `tag` and the tables, and their text
is that of the page. -/
structure IsPresentation (tag name : String) : Prop where
  not_landmark : name ≠ tag ∧ name ≠ "table"
  not_part : name ∉ ["th", "tbody", "tr", "td"]
  not_secluded : name ∉ secludedElements

/-- A change of presentation: a subtree without headings and tables is inserted outside of them, or
a part of the contents of an element, as of a heading or a cell, is put in an element of its
own. -/
inductive Edit (tag : String) (document document' : List Node) : Prop
  | insert {subtree : Node}
      (hfree : ∀ node ∈ subtree.nodes, ¬ (node.isNamed tag ∨ node.isNamed "table"))
      (h : Inserts tag subtree document document')
  | wrap {name : String} (hname : IsPresentation tag name) (h : Wraps name document document')

/-! ### Forests -/

theorem nodesBelow_append (nodes more : List Node) :
    Node.nodesBelow (nodes ++ more) = Node.nodesBelow nodes ++ Node.nodesBelow more := by
  simp only [nodesBelow_eq_flatMap, List.flatMap_append]

theorem textOfAll_append (kind : TextKind) (nodes more : List Node) :
    Node.textOfAll kind (nodes ++ more) =
      Node.textOfAll kind nodes ++ Node.textOfAll kind more := by
  induction nodes with
  | nil => rfl
  | cons node nodes ih =>
    rw [List.cons_append, Node.textOfAll, Node.textOfAll, ih, List.append_assoc]

/-- Only elements are asked for, and only by their names. -/
structure AsksName (p : Node → Bool) : Prop where
  text : ∀ kind content, p (.text kind content) = false
  children : ∀ name children children', p (.element name children) = p (.element name children')

theorem asksName_isNamed (name : String) : AsksName (Node.isNamed name) :=
  ⟨fun _ _ => rfl, fun _ _ _ => rfl⟩

theorem asksName_landmark (tag : String) :
    AsksName fun node => node.isNamed tag || node.isNamed "table" :=
  ⟨fun _ _ => rfl, fun _ _ _ => rfl⟩

namespace Cut

theorem refl (nodes : List Node) : Cut nodes nodes := by
  induction nodes with
  | nil => exact .nil
  | cons node nodes ih => exact .keep node ih

variable {nodes cut : List Node}

theorem textOfAll_eq (h : Cut nodes cut) (kind : TextKind) :
    Node.textOfAll kind cut = Node.textOfAll kind nodes := by
  induction h with
  | nil => rfl
  | keep node _ ih => rw [Node.textOfAll, Node.textOfAll, ih]
  | @text kind' _ left right _ _ hwhole _ ih =>
    subst hwhole
    rw [Node.textOfAll, ih, Node.textOfAll, Node.textOfAll, ← List.append_assoc]
    congr 1
    simp only [Node.textOf]
    split
    · rw [String.toList_append]
    · rfl

/-- No element is cut. -/
theorem filter_nodesBelow {p : Node → Bool} (hp : AsksName p) (h : Cut nodes cut) :
    (Node.nodesBelow cut).filter p = (Node.nodesBelow nodes).filter p := by
  induction h with
  | nil => rfl
  | keep node _ ih =>
    rw [Node.nodesBelow, Node.nodesBelow, List.filter_append, ih, List.filter_append]
  | text _ _ ih =>
    have htext : ∀ kind content, (Node.nodes (.text kind content)).filter p = [] := by
      intro kind content
      rw [Node.nodes, List.filter_cons_of_neg (by rw [hp.text]; exact Bool.false_ne_true),
        List.filter_nil]
    rw [Node.nodesBelow, Node.nodesBelow, List.filter_append, List.filter_append, htext, htext, ih,
      Node.nodesBelow, List.filter_append, htext, List.nil_append]

end Cut

/-! ### Inserting -/

/-- Inserting leaves the headings and tables of a document as they are. -/
theorem Inserts.landmarks_eq {tag : String} {subtree : Node} {document document' : List Node}
    (hfree : ∀ node ∈ subtree.nodes, ¬ (node.isNamed tag ∨ node.isNamed "table"))
    (h : Inserts tag subtree document document') :
    landmarks tag document' = landmarks tag document := by
  have hnone :
      subtree.nodes.filter (fun node => node.isNamed tag || node.isNamed "table") = [] := by
    rw [List.filter_eq_nil_iff]
    intro node hnode hfound
    exact hfree node hnode (Bool.or_eq_true_iff.1 hfound)
  unfold landmarks
  induction h with
  | @here nodes before after hcut =>
    rw [← hcut.filter_nodesBelow (asksName_landmark tag), nodesBelow_append, nodesBelow_append,
      Node.nodesBelow, List.filter_append, List.filter_append, List.filter_append, hnone,
      List.nil_append]
  | @inside before after name children children' hname _ ih =>
    -- the element around the place is no landmark itself, but what is below it may hold some
    have hskip : ∀ nodes, (Node.nodes (.element name nodes)).filter
        (fun node => node.isNamed tag || node.isNamed "table") =
          (Node.nodesBelow nodes).filter fun node => node.isNamed tag || node.isNamed "table" := by
      intro nodes
      rw [Node.nodes]
      apply List.filter_cons_of_neg
      simpa [Node.isNamed] using hname
    rw [nodesBelow_append, nodesBelow_append, Node.nodesBelow, Node.nodesBelow]
    simp only [List.filter_append, hskip, ih]

/-! ### Wrapping -/

/-- The same node, or an element with a part of what is below it put in a new element. -/
inductive Rewrapped (name : String) : Node → Node → Prop
  | same (node : Node) : Rewrapped name node node
  | inside (outer : String) {children children' : List Node} (h : Wraps name children children') :
    Rewrapped name (.element outer children) (.element outer children')

variable {name : String}

theorem forall₂_rewrapped_refl (nodes : List Node) :
    List.Forall₂ (Rewrapped name) nodes nodes :=
  List.forall₂_same.2 fun node _ => .same node

theorem Wraps.textOfAll_eq {nodes nodes' : List Node} (h : Wraps name nodes nodes')
    (kind : TextKind) : Node.textOfAll kind nodes' = Node.textOfAll kind nodes := by
  induction h with
  | @here nodes before part after hcut =>
    rw [← hcut.textOfAll_eq, textOfAll_append, textOfAll_append, textOfAll_append, Node.textOfAll,
      Node.textOf]
  | inside before after _ ih =>
    rw [textOfAll_append, textOfAll_append, Node.textOfAll, Node.textOfAll, Node.textOf,
      Node.textOf, ih]

/-- A search that does not ask for the new element finds the same elements, with the new element
below them or not. -/
theorem Wraps.filter_nodesBelow {p : Node → Bool} (hp : AsksName p)
    (hname : ∀ children, p (.element name children) = false) {nodes nodes' : List Node}
    (h : Wraps name nodes nodes') :
    List.Forall₂ (Rewrapped name) ((Node.nodesBelow nodes).filter p)
      ((Node.nodesBelow nodes').filter p) := by
  induction h with
  | @here nodes before part after hcut =>
    have hskip : (Node.nodes (.element name part)).filter p = (Node.nodesBelow part).filter p := by
      rw [Node.nodes]
      apply List.filter_cons_of_neg
      rw [hname]
      exact Bool.false_ne_true
    rw [← hcut.filter_nodesBelow hp, nodesBelow_append, nodesBelow_append, nodesBelow_append,
      Node.nodesBelow, List.filter_append, List.filter_append, List.filter_append,
      List.filter_append, hskip]
    exact forall₂_rewrapped_refl _
  | @inside before after outer children children' h ih =>
    have helement : List.Forall₂ (Rewrapped name)
        ((Node.nodes (.element outer children)).filter p)
        ((Node.nodes (.element outer children')).filter p) := by
      rw [Node.nodes, Node.nodes, List.filter_cons, List.filter_cons,
        hp.children outer children children']
      -- whether the element around the place is found does not depend on what is below it
      split
      · exact .cons (.inside outer h) ih
      · exact ih
    rw [nodesBelow_append, nodesBelow_append, Node.nodesBelow, Node.nodesBelow]
    simp only [List.filter_append]
    exact List.rel_append (forall₂_rewrapped_refl _)
      (List.rel_append helement (forall₂_rewrapped_refl _))

/-! ### Reading what is wrapped -/

theorem Rewrapped.innerText_eq {node node' : Node} (h : Rewrapped name node node') :
    node'.innerText = node.innerText := by
  cases h with
  | same => rfl
  | inside outer h => rw [Node.innerText, Node.innerText, h.textOfAll_eq]

theorem Rewrapped.isNamed_eq {node node' : Node} (h : Rewrapped name node node') (other : String) :
    node'.isNamed other = node.isNamed other := by
  cases h <;> rfl

theorem Rewrapped.findAll {node node' : Node} (h : Rewrapped name node node') {other : String}
    (hother : name ≠ other) :
    List.Forall₂ (Rewrapped name) (node.findAll other) (node'.findAll other) := by
  cases h with
  | same => exact forall₂_rewrapped_refl _
  | inside outer h =>
    exact h.filter_nodesBelow (asksName_isNamed other) fun _ => beq_eq_false_iff_ne.2 hother

theorem map_innerText_eq {nodes nodes' : List Node}
    (h : List.Forall₂ (Rewrapped name) nodes nodes') :
    nodes'.map Node.innerText = nodes.map Node.innerText := by
  induction h with
  | nil => rfl
  | cons h _ ih => rw [List.map_cons, List.map_cons, h.innerText_eq, ih]

section
variable {tag : String} (hname : IsPresentation tag name)
include hname

theorem IsPresentation.ne_of_part {other : String} (h : other ∈ ["th", "tbody", "tr", "td"]) :
    name ≠ other := by
  rintro rfl
  exact hname.not_part h

theorem rowTexts_eq_of_rewrapped {row row' : Node} (h : Rewrapped name row row') (table : String)
    (columns index : Nat) :
    rowTexts table columns index row' = rowTexts table columns index row := by
  have htd : name ≠ "td" := hname.ne_of_part (by decide)
  have hcells := h.findAll htd
  unfold rowTexts
  dsimp only
  rw [← hcells.length_eq, List.map_take, List.map_take, map_innerText_eq hcells]

theorem rowsTexts_eq_of_rewrapped {rows rows' : List Node}
    (h : List.Forall₂ (Rewrapped name) rows rows') (table : String) (columns index : Nat) :
    rowsTexts table columns index rows' = rowsTexts table columns index rows := by
  induction h generalizing index with
  | nil => rfl
  | cons hrow _ ih => rw [rowsTexts, rowsTexts, rowTexts_eq_of_rewrapped hname hrow, ih]

theorem bodyTexts_eq_of_rewrapped {node node' : Node} (h : Rewrapped name node node')
    (table : String) (columns : Nat) :
    bodyTexts table columns node' = bodyTexts table columns node := by
  have htbody : name ≠ "tbody" := hname.ne_of_part (by decide)
  have htr : name ≠ "tr" := hname.ne_of_part (by decide)
  have hbodies := h.findAll htbody
  unfold bodyTexts
  generalize node.findAll "tbody" = bodies at hbodies ⊢
  generalize node'.findAll "tbody" = bodies' at hbodies ⊢
  -- only the first body of a table is read
  cases hbodies with
  | nil => rfl
  | cons hbody => exact rowsTexts_eq_of_rewrapped hname (hbody.findAll htr) table columns 0

theorem tableAt_eq_of_rewrapped {node node' : Node} (h : Rewrapped name node node')
    (heading : Option String) : tableAt heading node' = tableAt heading node := by
  have hth : name ≠ "th" := hname.ne_of_part (by decide)
  unfold tableAt
  dsimp only
  rw [(h.findAll hth).length_eq]
  simp only [bodyTexts_eq_of_rewrapped hname h]

theorem walk_eq_of_rewrapped {nodes nodes' : List Node}
    (h : List.Forall₂ (Rewrapped name) nodes nodes') (heading : Option String) :
    walk tag heading nodes' = walk tag heading nodes := by
  induction h generalizing heading with
  | nil => rfl
  | cons hnode _ ih =>
    rw [walk, walk, hnode.isNamed_eq, tableAt_eq_of_rewrapped hname hnode, headingText?,
      headingText?, hnode.innerText_eq, ih, ih]

theorem scrape_of_wraps {document document' : List Node} (h : Wraps name document document') :
    scrape tag document' = scrape tag document := by
  apply walk_eq_of_rewrapped hname
  apply h.filter_nodesBelow (asksName_landmark tag)
  intro children
  simpa [Node.isNamed] using hname.not_landmark

end

/-- Any number of changes of presentation leaves what is read from a document as it is: the same
tables, or the same error. -/
theorem scrape_of_edits {tag : String} {document document' : List Node}
    (h : Relation.ReflTransGen (Edit tag) document document') :
    scrape tag document' = scrape tag document := by
  induction h with
  | refl => rfl
  | tail _ hedit ih =>
    rw [← ih]
    cases hedit with
    | insert hfree h => exact congrArg (walk tag none) (h.landmarks_eq hfree)
    | wrap hname h => exact scrape_of_wraps hname h

/-- The sample with a part of a heading in an element of its own, and with prose before the
table. -/
def presentedDocument : List Node :=
  sampleDocument.take 2 ++ .element "h4" [.text .page "U", .labelled "b" "ser"] ::
    .labelled "p" "Who uses it." :: sampleDocument.drop 3

/-- The presented sample is read as the sample. -/
theorem scrape_of_edits_sample :
    Relation.ReflTransGen (Edit "h4") sampleDocument presentedDocument ∧
      scrape "h4" presentedDocument = scrape "h4" sampleDocument := by
  have hwraps : Wraps "b" [.text .page "User"]
      ([.text .page "U"] ++ .element "b" [.text .page "ser"] :: []) :=
    .here (.text (by decide) (.refl _))
  have hwrap : Edit "h4" sampleDocument
      (sampleDocument.take 2 ++ .element "h4" [.text .page "U", .labelled "b" "ser"] ::
        sampleDocument.drop 3) :=
    .wrap ⟨by decide, by decide, by decide⟩ (.inside (sampleDocument.take 2) _ hwraps)
  have hinsert : Edit "h4"
      (sampleDocument.take 2 ++ .element "h4" [.text .page "U", .labelled "b" "ser"] ::
        sampleDocument.drop 3)
      presentedDocument := by
    have hfree : ∀ node ∈ (Node.labelled "p" "Who uses it.").nodes,
        ¬ (node.isNamed "h4" ∨ node.isNamed "table") := by decide
    unfold presentedDocument
    rw [List.append_cons (sampleDocument.take 2), List.append_cons (sampleDocument.take 2)]
    exact .insert hfree (.here (.refl _))
  have hedits := (Relation.ReflTransGen.single hwrap).tail hinsert
  exact ⟨hedits, scrape_of_edits hedits⟩

end ApiScribe.Document
