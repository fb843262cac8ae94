import ApiScribe.Json.Basic
import ApiScribe.Yaml.Scanner
import ApiScribe.Yaml.Tag

/-!
# Nodes

The tree of a document: scalars, sequences and mappings, each with its tag.  A node may carry an
anchor, and an alias later in the text stands for the same node again; anchors are unique and
stand before their aliases, so a name is enough to find the node.
-/

namespace ApiScribe.Yaml

/-- A node of a document. -/
inductive Node where
  | scalar (tag : Tag) (text : List Nat)
  | sequence (tag : Tag) (items : List Node)
  | mapping (tag : Tag) (pairs : List (Node × Node))
  | alias (name : List Char)
  deriving Inhabited, Repr

/-- The anchored nodes of a document by name. -/
abbrev Anchors := List (List Char × Node)

/-- What nodes need from what stands before them: the handles of tags, the names of anchors, and
the anchored nodes that are complete. -/
structure Composition where
  handles : List (List Char × List Char)
  names : List (List Char)
  anchors : Anchors

/-- Reading a part of a document takes tokens and adds anchors. -/
abbrev Compose (α : Type) := Composition → List Token → Except Error (α × Composition × List Token)

/-- The handles that every document knows. -/
def defaultHandles : List (List Char × List Char) :=
  [(['!'], ['!']), (['!', '!'], standardTags)]

/-- What stands before a node. -/
structure Properties where
  anchor : Option (List Char)
  /-- The name of the tag. -/
  tag : Option (List Char)

namespace Properties

/-- The tag of a collection; a lone exclamation mark says nothing about it. -/
def collectionTag (p : Properties) (fallback : Tag) : Tag :=
  match p.tag with
  | none => fallback
  | some ['!'] => fallback
  | some name => Tag.ofName name

/-- The tag of a scalar. -/
def scalarTag (p : Properties) (plain : Bool) (text : List Nat) : Tag :=
  match p.tag with
  | none => if plain then Tag.ofPlain (Json.characters text) else .str
  | some ['!'] => Tag.ofPlain (Json.characters text)
  | some name => Tag.ofName name

end Properties

/-- The name that a tag token spells. -/
def tagName (handles : List (List Char × List Char)) :
    Option (List Char) → List Char → Except Error (List Char)
  | none, suffix => .ok suffix
  | some handle, suffix =>
    match handles.lookup handle with
    | some lead => .ok (lead ++ suffix)
    | none => .error .malformed

/-- The anchor and the tag before a node, in either order. -/
def properties (handles : List (List Char × List Char)) :
    List Token → Except Error (Properties × List Token)
  | .anchor a :: .tag h s :: rest => do return (⟨some a, some (← tagName handles h s)⟩, rest)
  | .tag h s :: .anchor a :: rest => do return (⟨some a, some (← tagName handles h s)⟩, rest)
  | .anchor a :: rest => .ok (⟨some a, none⟩, rest)
  | .tag h s :: rest => do return (⟨none, some (← tagName handles h s)⟩, rest)
  | rest => .ok (⟨none, none⟩, rest)

/-- The node that is left out. -/
def omitted : Node := .scalar .null []

namespace Composition

/-- Takes the name of an anchor, which nobody else may have. -/
def reserve (c : Composition) : Option (List Char) → Except Error Composition
  | none => .ok c
  | some name =>
    if c.names.contains name then .error .malformed else .ok { c with names := name :: c.names }

/-- Adds the node of an anchor. -/
def complete (c : Composition) (anchor : Option (List Char)) (node : Node) : Composition :=
  match anchor with
  | none => c
  | some name => { c with anchors := (name, node) :: c.anchors }

end Composition

/-- Where a node stands decides how it may be written. -/
inductive Place where
  /-- Inside brackets. -/
  | flow
  | block
  /-- The key or the value of a block mapping, where the entries of a sequence need no indent. -/
  | blockOrEntries
  deriving DecidableEq, Repr

/-- The next token is one of the given ones. -/
def nextIs (ts : List Token) (among : List Token) : Bool := ts.head?.any (among.contains ·)

mutual

/-- A node. -/
def node (fuel : Nat) (place : Place) : Compose Node := fun c ts =>
  match fuel with
  | 0 => .error .malformed
  | fuel + 1 =>
    match ts with
    | .alias name :: rest =>
      if c.names.contains name then .ok (.alias name, c, rest) else .error .malformed
    | _ => do
      let (p, ts) ← properties c.handles ts
      let c ← c.reserve p.anchor
      let finish (r : Node × Composition × List Token) : Node × Composition × List Token :=
        (r.1, r.2.1.complete p.anchor r.1, r.2.2)
      match ts with
      | .scalar text plain :: rest => return finish (.scalar (p.scalarTag plain text) text, c, rest)
      | .flowSequenceStart :: rest => do
        let (items, c, rest) ← flowItems fuel true c rest
        return finish (.sequence (p.collectionTag .seq) items, c, rest)
      | .flowMappingStart :: rest => do
        let (pairs, c, rest) ← flowPairs fuel true c rest
        return finish (.mapping (p.collectionTag .map) pairs, c, rest)
      | _ =>
        if place == .blockOrEntries && nextIs ts [.blockEntry] then do
          let (items, c, rest) ← entries fuel false c ts
          return finish (.sequence (p.collectionTag .seq) items, c, rest)
        else if place != .flow && nextIs ts [.blockSequenceStart] then do
          let (items, c, rest) ← entries fuel true c (ts.drop 1)
          return finish (.sequence (p.collectionTag .seq) items, c, rest)
        else if place != .flow && nextIs ts [.blockMappingStart] then do
          let (pairs, c, rest) ← blockPairs fuel c (ts.drop 1)
          return finish (.mapping (p.collectionTag .map) pairs, c, rest)
        else if p.anchor.isSome || p.tag.isSome then
          let tag := match p.tag with
            | none => Tag.ofPlain []
            | some ['!'] => Tag.ofPlain []
            | some name => Tag.ofName name
          return finish (.scalar tag [], c, ts)
        else .error .malformed

/-- A node, unless one of the given tokens shows that it is left out. -/
def nodeUnless (fuel : Nat) (stops : List Token) (place : Place) : Compose Node := fun c ts =>
  match fuel with
  | 0 => .error .malformed
  | fuel + 1 => if nextIs ts stops then .ok (omitted, c, ts) else node fuel place c ts

/-- The entries of a block sequence; one without an indent of its own has no end token. -/
def entries (fuel : Nat) (ended : Bool) : Compose (List Node) := fun c ts =>
  match fuel with
  | 0 => .error .malformed
  | fuel + 1 =>
    match ts with
    | .blockEntry :: rest => do
      let stops := if ended then [Token.blockEntry, .blockEnd]
        else [.blockEntry, .key, .value, .blockEnd]
      let (item, c, rest) ← nodeUnless fuel stops .block c rest
      let (items, c, rest) ← entries fuel ended c rest
      return (item :: items, c, rest)
    | .blockEnd :: rest => .ok ([], c, if ended then rest else ts)
    | _ => if ended then .error .malformed else .ok ([], c, ts)

/-- The pairs of a block mapping. -/
def blockPairs (fuel : Nat) : Compose (List (Node × Node)) := fun c ts =>
  match fuel with
  | 0 => .error .malformed
  | fuel + 1 =>
    match ts with
    | .key :: rest => do
      let stops := [Token.key, .value, .blockEnd]
      let (key, c, rest) ← nodeUnless fuel stops .blockOrEntries c rest
      let (value, c, rest) ← match rest with
        | .value :: rest => nodeUnless fuel stops .blockOrEntries c rest
        | _ => .ok (omitted, c, rest)
      let (pairs, c, rest) ← blockPairs fuel c rest
      return ((key, value) :: pairs, c, rest)
    | .blockEnd :: rest => .ok ([], c, rest)
    | _ => .error .malformed

/-- The value of a key inside brackets that end with the given token. -/
def flowValue (fuel : Nat) (close : Token) : Compose Node := fun c ts =>
  match fuel with
  | 0 => .error .malformed
  | fuel + 1 =>
    match ts with
    | .value :: rest => nodeUnless fuel [.flowEntry, close] .flow c rest
    | _ => .ok (omitted, c, ts)

/-- The items of a sequence in brackets; a key makes an item a mapping of one pair. -/
def flowItems (fuel : Nat) (first : Bool) : Compose (List Node) := fun c ts =>
  match fuel with
  | 0 => .error .malformed
  | fuel + 1 =>
    match ts with
    | .flowSequenceEnd :: rest => .ok ([], c, rest)
    | _ => do
      let ts ← match first, ts with
        | true, ts => .ok ts
        | false, .flowEntry :: rest => .ok rest
        | false, _ => .error .malformed
      match ts with
      | .flowSequenceEnd :: rest => return ([], c, rest)
      | .key :: rest => do
        let (key, c, rest) ←
          nodeUnless fuel [.value, .flowEntry, .flowSequenceEnd] .flow c rest
        let (value, c, rest) ← flowValue fuel .flowSequenceEnd c rest
        let (items, c, rest) ← flowItems fuel false c rest
        return (.mapping .map [(key, value)] :: items, c, rest)
      | _ => do
        let (item, c, rest) ← node fuel .flow c ts
        let (items, c, rest) ← flowItems fuel false c rest
        return (item :: items, c, rest)

/-- The pairs of a mapping in brackets; a key may stand alone. -/
def flowPairs (fuel : Nat) (first : Bool) : Compose (List (Node × Node)) := fun c ts =>
  match fuel with
  | 0 => .error .malformed
  | fuel + 1 =>
    match ts with
    | .flowMappingEnd :: rest => .ok ([], c, rest)
    | _ => do
      let ts ← match first, ts with
        | true, ts => .ok ts
        | false, .flowEntry :: rest => .ok rest
        | false, _ => .error .malformed
      match ts with
      | .flowMappingEnd :: rest => return ([], c, rest)
      | .key :: rest => do
        let (key, c, rest) ←
          nodeUnless fuel [.value, .flowEntry, .flowMappingEnd] .flow c rest
        let (value, c, rest) ← flowValue fuel .flowMappingEnd c rest
        let (pairs, c, rest) ← flowPairs fuel false c rest
        return ((key, value) :: pairs, c, rest)
      | _ => do
        let (key, c, rest) ← node fuel .flow c ts
        let (pairs, c, rest) ← flowPairs fuel false c rest
        return ((key, omitted) :: pairs, c, rest)

end

/-- The directives before a document: at most one version, which has to be a known one, and no
handle twice. -/
def directives : Bool → List (List Char × List Char) → List Token →
    Except Error (List (List Char × List Char) × List Token)
  | versioned, handles, .directive d :: rest =>
    match d with
    | .version major =>
      if versioned || major != 1 then .error .malformed else directives true handles rest
    | .tagHandle handle lead =>
      if (handles.lookup handle).isSome then .error .malformed
      else directives versioned ((handle, lead) :: handles) rest
    | .unknown => directives versioned handles rest
  | _, handles, rest => .ok (handles ++ defaultHandles, rest)

/-- The tokens end, after marks that end a document. -/
def atStreamEnd : List Token → Bool
  | .documentEnd :: rest => atStreamEnd rest
  | .streamEnd :: _ => true
  | _ => false

/-- The single document of a stream, with its anchored nodes; nothing if there is none. -/
def document (ts : List Token) : Except Error (Option (Node × Anchors)) := do
  let fuel := 4 * ts.length + 4
  match ts with
  | .streamEnd :: _ => return none
  | _ =>
    let explicit := nextIs ts [.documentStart] || (match ts with
      | .directive _ :: _ => true
      | _ => false)
    let (root, c, rest) ←
      if explicit then do
        let (handles, rest) ← directives false [] ts
        match rest with
        | .documentStart :: rest =>
          let bare := nextIs rest [.documentStart, .documentEnd, .streamEnd] || (match rest with
            | .directive _ :: _ => true
            | _ => false)
          let c : Composition := ⟨handles, [], []⟩
          if bare then .ok (omitted, c, rest) else node fuel .block c rest
        | _ => .error .malformed
      else node fuel .block ⟨defaultHandles, [], []⟩ ts
    if atStreamEnd rest then return some (root, c.anchors) else .error .malformed

end ApiScribe.Yaml
