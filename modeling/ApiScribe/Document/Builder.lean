import ApiScribe.Document.Node
import ApiScribe.Document.Token

/-!
# From tokens to a document

An end tag closes the nearest open element of its name with everything open inside it, and means
nothing when none is open.  An element that has no content, and one whose start tag ends with a
slash, is closed at once; the next end tag after the former is taken to be its own and skipped.  No
end tag is ever implied, and what is open at the end of the text is closed there.

Character data is gathered until a tag or an aside.  A run of ASCII blanks alone is one line break
if it holds one and one blank otherwise, except in preformatted elements.
-/

namespace ApiScribe.Document

/-- The elements that have no content. -/
def voidElements : List String :=
  ["area", "base", "br", "col", "embed", "hr", "img", "input", "keygen", "link", "menuitem", "meta",
   "param", "source", "track", "wbr", "basefont", "bgsound", "command", "frame", "image", "isindex",
   "nextid", "spacer"]

/-- The elements in which runs of blanks are kept. -/
def preformattedElements : List String := ["pre", "textarea"]

/-- An open element, with its children so far, last one first. -/
structure Open where
  name : String
  children : List Node

/-- A document under construction. -/
structure Builder where
  /-- The open elements, innermost first. -/
  opened : List Open
  /-- The finished nodes outside all open elements, last one first. -/
  top : List Node
  /-- The pieces of character data gathered so far, last one first. -/
  pending : List (List Char)
  /-- The elements without content whose end tags are still to be skipped. -/
  skipped : List String

namespace Builder

/-- Nothing built yet. -/
def start : Builder := ⟨[], [], [], []⟩

/-- Adds a node to the innermost open element. -/
def add (b : Builder) (n : Node) : Builder :=
  match b.opened with
  | [] => { b with top := n :: b.top }
  | o :: more => { b with opened := { o with children := n :: o.children } :: more }

/-- The character is an ASCII blank. -/
def isAsciiBlank (c : Char) : Bool := [' ', '\n', '\t', '\x0c', '\r'].contains c

/-- A run of ASCII blanks is one break or one blank. -/
def collapse (cs : List Char) : List Char :=
  if cs.all isAsciiBlank then [if cs.contains '\n' then '\n' else ' '] else cs

/-- Some open element keeps its blanks. -/
def isPreformatted (b : Builder) : Bool :=
  b.opened.any fun o => preformattedElements.contains o.name

/-- What a text belongs to: the innermost open element that keeps its text to itself, if any. -/
def textKind (b : Builder) : TextKind :=
  match b.opened.find? fun o => secludedElements.contains o.name with
  | some o => .inside o.name
  | none => .page

/-- The text of the gathered data as it stands in the document. -/
def settle (b : Builder) (cs : List Char) : String :=
  String.ofList (if b.isPreformatted then cs else collapse cs)

/-- Ends a run of character data. -/
def flush (b : Builder) : Builder :=
  match b.pending with
  | [] => b
  | pieces =>
    { b with pending := [] }.add (.text b.textKind (b.settle pieces.reverse.flatten))

/-- Opens an element. -/
def openElement (b : Builder) (name : String) : Builder :=
  let b := b.flush
  { b with opened := ⟨name, []⟩ :: b.opened }

/-- Closes the innermost open element. -/
def closeInnermost (b : Builder) : Builder :=
  match b.opened with
  | [] => b
  | o :: more => { b with opened := more }.add (.element o.name o.children.reverse)

/-- Closes open elements up to the innermost one of the given name. -/
def closeThrough (name : String) (b : Builder) : List Open → Builder
  | [] => b
  | o :: more =>
    if o.name = name then b.closeInnermost else closeThrough name b.closeInnermost more

/-- Closes the innermost open element of a name, if there is one. -/
def closeElement (b : Builder) (name : String) : Builder :=
  let b := b.flush
  if b.opened.any (·.name == name) then closeThrough name b b.opened else b

/-- An element without content, whose end tag is to be skipped if it comes. -/
def addVoid (b : Builder) (name : String) : Builder :=
  let b := (b.openElement name).closeElement name
  { b with skipped := name :: b.skipped }

/-- An end tag.  One that is skipped does not end the run of character data around it. -/
def endTag (b : Builder) (name : String) : Builder :=
  if b.skipped.contains name then { b with skipped := b.skipped.erase name }
  else b.closeElement name

/-- One token. -/
def step (b : Builder) : Token → Builder
  | .data cs => { b with pending := cs :: b.pending }
  | .opening name =>
    let name := String.ofList name
    if voidElements.contains name then b.addVoid name else b.openElement name
  | .closed name => (b.openElement (String.ofList name)).closeElement (String.ofList name)
  | .ending name => b.endTag (String.ofList name)
  | .section cs =>
    let b := b.flush
    b.add (.text .page (b.settle cs))
  | .aside => b.flush

/-- Closes everything. -/
def finish (b : Builder) : List Node :=
  let b := b.flush
  (b.opened.foldl (fun b _ => b.closeInnermost) b).top.reverse

end Builder

/-- The document of a token sequence. -/
def ofTokens (tokens : List Token) : List Node := (tokens.foldl Builder.step Builder.start).finish

/-- The document that a text spells. -/
def parse (text : String) : Except MarkupFault (List Node) :=
  (tokenize text.toList).map ofTokens

end ApiScribe.Document
