import ApiScribe.Yaml.Node
import ApiScribe.Yaml.ScalarValue

/-!
# Documents

The value of a YAML text, as a datum for a schema.  A document that composes may still hold nodes
without a value: a scalar that does not exist, a tag that nobody knows, a key that cannot be one.
Nodes get their values level by level, from the root on, so of two faults the one nearer to the
root counts.
-/

namespace ApiScribe.Yaml

/-- The node that a name or a node stands for. -/
def Node.resolve (anchors : Anchors) : Node → Node
  | .alias name => (anchors.lookup name).getD omitted
  | n => n

/-- The tag of a node. -/
def Node.tag : Node → Tag
  | .scalar tag _ => tag
  | .sequence tag _ => tag
  | .mapping tag _ => tag
  | .alias _ => .unknown

/-- The tag is one of a collection. -/
def Tag.isCollection (t : Tag) : Bool := [Tag.seq, .map, .set, .omap, .pairs].contains t

/-- The text of a node that is read as a scalar.  A mapping is read as the value of its key `=`. -/
def Node.text? (anchors : Anchors) : Nat → Node → Option (List Nat)
  | 0, _ => none
  | fuel + 1, n =>
    match n.resolve anchors with
    | .scalar _ text => some text
    | .mapping _ pairs =>
      match pairs.find? fun (key, _) => (key.resolve anchors).tag == .value with
      | some (_, value) => value.text? anchors fuel
      | none => none
    | _ => none

/-- The value of a node with a tag of scalars. -/
def Node.scalar? (anchors : Anchors) (n : Node) : Except Error ScalarValue :=
  let n := n.resolve anchors
  match n.text? anchors 64 with
  | some text => ScalarValue.of n.tag text
  | none => .error .malformed

/-! ### Faults -/

/-- A fault and the level of nodes at which it shows. -/
abbrev Fault := Nat × Error

/-- The fault that a node shows as soon as it is needed. -/
def Node.fault? (anchors : Anchors) (n : Node) : Option Error :=
  match n with
  | .alias _ => none
  | n =>
    if n.tag.isCollection then none
    else match n.scalar? anchors with
      | .ok _ => none
      | .error e => some e

/-- The key of a mapping, if it is a scalar; the key `=` is a text. -/
def Node.key? (anchors : Anchors) (n : Node) : Except Error ScalarValue :=
  let n := n.resolve anchors
  if n.tag.isCollection then .error .malformed
  else match n with
    | .scalar .value text => .ok (.text text)
    | n => n.scalar? anchors

mutual

/-- The faults of a node that is needed at a level. -/
def Node.faults (anchors : Anchors) (level : Nat) (n : Node) : List Fault :=
  match n.fault? anchors with
  | some e => [(level, e)]
  | none =>
    match n with
    | .sequence tag items =>
      match tag with
      | .seq => itemFaults anchors (level + 1) items
      | .omap => entryFaults anchors (level + 1) items
      | .pairs => entryFaults anchors (level + 1) items
      | .map => [(level + 1, .malformed)]
      | .set => [(level + 1, .malformed)]
      | _ => []
    | .mapping tag pairs =>
      match tag with
      | .map => pairFaults anchors (level + 1) pairs
      | .set => pairFaults anchors (level + 1) pairs
      | .seq => [(level + 1, .malformed)]
      | .omap => [(level + 1, .malformed)]
      | .pairs => [(level + 1, .malformed)]
      | _ => []
    | .scalar tag _ => if tag.isCollection then [(level + 1, .malformed)] else []
    | .alias _ => []

/-- The faults of the items of a sequence. -/
def itemFaults (anchors : Anchors) (level : Nat) : List Node → List Fault
  | [] => []
  | n :: ns => n.faults anchors level ++ itemFaults anchors level ns

/-- The faults of a list of mappings with one pair each. -/
def entryFaults (anchors : Anchors) (level : Nat) : List Node → List Fault
  | [] => []
  | n :: ns =>
    (match n with
      | .mapping _ [(key, value)] => key.faults anchors level ++ value.faults anchors level
      | n =>
        match n.resolve anchors with
        | .mapping _ [_] => []
        | _ => [(level, .malformed)]) ++ entryFaults anchors level ns

/-- The faults of the pairs of a mapping. -/
def pairFaults (anchors : Anchors) (level : Nat) : List (Node × Node) → List Fault
  | [] => []
  | (key, value) :: rest =>
    (if (key.resolve anchors).tag == .merge then value.mergeFaults anchors level
    else
      match key.key? anchors with
      | .error e => [(level, e)]
      | .ok _ => value.faults anchors level) ++ pairFaults anchors level rest

/-- The faults of what is merged into a mapping: a mapping, or a list of mappings. -/
def Node.mergeFaults (anchors : Anchors) (level : Nat) : Node → List Fault
  | .mapping _ pairs => pairFaults anchors level pairs
  | .sequence _ items => mergeListFaults anchors level items
  | .alias name =>
    match (Node.alias name).resolve anchors with
    | .mapping _ _ => []
    | .sequence _ items =>
      if items.all fun n => match n.resolve anchors with
        | .mapping _ _ => true
        | _ => false then [] else [(level, .malformed)]
    | _ => [(level, .malformed)]
  | .scalar _ _ => [(level, .malformed)]

/-- The faults of a list of merged mappings. -/
def mergeListFaults (anchors : Anchors) (level : Nat) : List Node → List Fault
  | [] => []
  | n :: ns =>
    (match n with
      | .mapping _ pairs => pairFaults anchors level pairs
      | n =>
        match n.resolve anchors with
        | .mapping _ _ => []
        | _ => [(level, .malformed)]) ++ mergeListFaults anchors level ns

end

/-- The first fault of the least level. -/
def firstFault : List Fault → Option Fault
  | [] => none
  | f :: fs =>
    match firstFault fs with
    | some g => if g.1 < f.1 then some g else some f
    | none => some f

/-! ### Values -/

/-- The pairs of a mapping, those that are merged into it first.  A mapping that is being merged
adds nothing to itself. -/
def mergedPairs (anchors : Anchors) : Nat → List (List Char) → Node → List (Node × Node)
  | 0, _, _ => []
  | fuel + 1, path, n =>
    let next (n : Node) : List (Node × Node) :=
      match n with
      | .alias name => if path.contains name then [] else mergedPairs anchors fuel (name :: path) n
      | n => mergedPairs anchors fuel path n
    match n.resolve anchors with
    | .mapping _ pairs =>
      let merges (p : Node × Node) : Bool := (p.1.resolve anchors).tag == .merge
      let merged := (pairs.filter merges).flatMap fun (_, value) =>
        match value.resolve anchors with
        | .sequence _ items => (items.map next).reverse.flatMap id
        | _ => next value
      -- the mapping's own pairs come last, and win
      merged ++ pairs.filter (!merges ·)
    | _ => []

/-- Sets a member of a mapping: a new key comes last, an old one keeps its place and its look. -/
def setKey {α : Type} (key : ScalarValue) (value : α) :
    List (ScalarValue × α) → List (ScalarValue × α)
  | [] => [(key, value)]
  | (k, v) :: rest =>
    if k.identity = key.identity then (k, value) :: rest else (k, v) :: setKey key value rest

/-- The members of a mapping, of which the last of one key wins. -/
def members (anchors : Anchors) (fuel : Nat) (n : Node) : List (ScalarValue × Node) :=
  (mergedPairs anchors fuel [] n).foldl (fun acc (key, value) =>
    match key.key? anchors with
    | .ok k => setKey k value acc
    | .error _ => acc) []

/-- A node as data, down to a depth; what lies deeper does not matter to a schema. -/
def Node.toDatum (anchors : Anchors) (fuel : Nat) : Nat → Node → Datum
  | 0, _ => .scalar
  | depth + 1, n =>
    let n := n.resolve anchors
    match n.tag, n with
    | .map, _ => .record ((members anchors fuel n).map fun (key, value) =>
        (key.toKey, value.toDatum anchors fuel depth))
    | .set, _ => .list ((members anchors fuel n).map fun _ => .scalar)
    | .seq, .sequence _ items => .list (items.map (Node.toDatum anchors fuel depth))
    | .omap, .sequence _ items => .list (items.map fun _ => .list [])
    | .pairs, .sequence _ items => .list (items.map fun _ => .list [])
    | _, n =>
      match n.scalar? anchors with
      | .ok v => v.toDatum
      | .error _ => .scalar

/-- The depth down to which a document is looked at: deeper than any schema. -/
def depth : Nat := 8

/-- The value of a text; a text without a document is a value like no record. -/
def read (text : List Char) : Except Error Datum := do
  let tokens ← tokenize text
  match ← document tokens with
  | none => return .scalar
  | some (root, anchors) =>
    match firstFault (root.faults anchors 0) with
    | some (_, e) => .error e
    | none => return root.toDatum anchors tokens.length depth

end ApiScribe.Yaml
