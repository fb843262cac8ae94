/-!
# Document trees

A document is a forest of elements and texts.  Comments, declarations and processing instructions
leave no node.  A text knows the element whose text it is when that element's text is not part of
the page: scripts, style sheets, templates and ruby annotations.
-/

namespace ApiScribe.Document

/-- What a text belongs to. -/
inductive TextKind where
  /-- Text of the page. -/
  | page
  /-- Text of an element that keeps its text to itself. -/
  | inside (element : String)
  deriving DecidableEq, Repr, Inhabited

/-- A node of a document. -/
inductive Node where
  | element (name : String) (children : List Node)
  | text (kind : TextKind) (content : String)
  deriving Inhabited, Repr

/-- The elements whose text is not text of the page. -/
def secludedElements : List String := ["rt", "rp", "style", "script", "template"]

/-- The kind of text that counts as the text of an element. -/
def kindOfTextIn (element : String) : TextKind :=
  if secludedElements.contains element then .inside element else .page

namespace Node

/-- The node is an element of the given name. -/
def isNamed (name : String) : Node → Bool
  | .element n _ => n == name
  | .text _ _ => false

mutual

/-- The node and everything below it, in document order. -/
def nodes : Node → List Node
  | .element name children => .element name children :: nodesBelow children
  | .text kind content => [.text kind content]

/-- The nodes of a forest, in document order. -/
def nodesBelow : List Node → List Node
  | [] => []
  | n :: ns => nodes n ++ nodesBelow ns

end

/-- Everything below a node, in document order. -/
def descendants : Node → List Node
  | .element _ children => nodesBelow children
  | .text _ _ => []

/-- The elements of one name below a node, in document order. -/
def findAll (name : String) (n : Node) : List Node := n.descendants.filter (isNamed name)

mutual

/-- The texts of one kind in a node, joined. -/
def textOf (kind : TextKind) : Node → List Char
  | .element _ children => textOfAll kind children
  | .text k content => if k = kind then content.toList else []

/-- The texts of one kind in a forest, joined. -/
def textOfAll (kind : TextKind) : List Node → List Char
  | [] => []
  | n :: ns => textOf kind n ++ textOfAll kind ns

end

/-- The text of a node. -/
def innerText : Node → String
  | .element name children => String.ofList (textOfAll (kindOfTextIn name) children)
  | .text _ content => content

end Node
end ApiScribe.Document
