import ApiScribe.Template.Number
import ApiScribe.Template.Show

/-!
# Comparing values

Numbers are compared exactly whatever their type, texts and sequences from the front.  Values of
different kinds are never equal, and putting them in order is a fault.  Nothing has no order and,
unless it is lenient, cannot be compared at all.  Inside of a list, tuple or dictionary a value
matches what it is the same as, even if it is not equal to itself.
-/

namespace ApiScribe.Template

/-- The number of numbers in a range. -/
def rangeLength (start stop step : Int) : Nat :=
  if 0 < step then ((stop - start + step - 1) / step).toNat
  else if step < 0 then ((start - stop - step - 1) / (-step)).toNat
  else 0

/-- The numbers of a range. -/
def rangeItems (start stop step : Int) : List Value :=
  (List.range (rangeLength start stop step)).map fun (i : Nat) => .int (start + (i : Int) * step)

/-- The number of a boolean. -/
def ofBool (b : Bool) : Int := if b then 1 else 0

/-- The integer that a value is, a boolean being one too. -/
def Value.integer? : Value → Option Int
  | .int n => some n
  | .bool b => some (ofBool b)
  | _ => .none

/-- The text that a value is. -/
def Value.string? : Value → Option String
  | .text s => some s
  | .markup s => some s
  | _ => .none

/-- What a view of a dictionary shows. -/
def viewItems (part : DictPart) (pairs : List (Value × Value)) : List Value :=
  match part with
  | .items => pairs.map fun (k, v) => .tuple [k, v]
  | .keys => pairs.map (·.1)
  | .values => pairs.map (·.2)

/-- The items of a value that has fixed items. -/
def Value.tuple? : Value → Option (List Value)
  | .tuple items => some items
  | .group key items => some [key, items]
  | _ => .none

/-- The number that a value is. -/
def Value.number? : Value → Option Number
  | .int n => some (.int n)
  | .bool b => some (.int (ofBool b))
  | .float x => some (.float x)
  | .nan _ => some (.float (0.0 / 0.0))
  | .complex re im => some (.complex re im)
  | _ => .none

/-- The float that a value is. -/
def Value.float? : Value → Option Float
  | .float x => some x
  | .nan _ => some (0.0 / 0.0)
  | _ => .none

/-- Ends because nothing is used, if one of the values is nothing. -/
def checkUsable (a b : Value) : Except Fault Unit :=
  match a, b with
  | .undefined message false, _ => .error ⟨.undefined, message⟩
  | _, .undefined message false => .error ⟨.undefined, message⟩
  | _, _ => .ok ()

/-- The depth to which values are compared. -/
def comparedDepth : Nat := 900

/-- Two ranges have the same numbers. -/
def sameRange (a b : Int × Int × Int) : Bool :=
  let n := rangeLength a.1 a.2.1 a.2.2
  n == rangeLength b.1 b.2.1 b.2.2 &&
    (n == 0 || (a.1 == b.1 && (n == 1 || a.2.2 == b.2.2)))

mutual

/-- Two values are the very same.  Values that cannot change and that are written alike count as
one. -/
def Value.same : Value → Value → Bool
  | .none, .none => true
  | .bool a, .bool b => a == b
  | .int a, .int b => a == b
  | .float a, .float b => a.toBits == b.toBits
  | .nan a, .nan b => a == b
  | .complex a b, .complex c d => a.toBits == c.toBits && b.toBits == d.toBits
  | .text a, .text b => a == b
  | .markup a, .markup b => a == b
  | .tuple a, .tuple b => sameItems a b
  | .group a b, .group c d => a.same c && b.same d
  | .range a b c, .range d e f => a == d && b == e && c == f
  | .list p, .list q => p == q
  | .dict p, .dict q => p == q
  | .cells p, .cells q => p == q
  | .cursor p, .cursor q => p == q
  | .joiner p, .joiner q => p == q
  | .cycler p, .cycler q => p == q
  | .loop p, .loop q => p == q
  | .routine p, .routine q => p == q
  | .module p, .module q => p == q
  | .blocks p, .blocks q => p == q
  | .function f, .function g => f == g
  | _, _ => false

/-- All items of two sequences are the very same. -/
def sameItems : List Value → List Value → Bool
  | [], [] => true
  | a :: as, b :: bs => a.same b && sameItems as bs
  | _, _ => false

end

mutual

/-- Two values are equal. -/
def Value.equalsIn (h : Heap) : Nat → Value → Value → Except Fault Bool
  | 0, _, _ => .error ⟨.recursion, Fault.tooDeep.message ++ " in comparison"⟩
  | fuel + 1, a, b => do
    checkUsable a b
    if let (some m, some n) := (a.number?, b.number?) then return m.equals n
    if let some s := a.string? then return b.string? == some s
    if let some xs := a.tuple? then
      match b.tuple? with
      | some ys => return ← equalItems h fuel xs ys
      | .none => return false
    match a, b with
    | .none, .none => return true
    | .undefined _ _, .undefined _ _ => return true
    | .range a b c, .range d e f => return sameRange (a, b, c) (d, e, f)
    | .list p, .list q =>
      equalItems h fuel (h.lists.getD p []) (h.lists.getD q [])
    | .dict p, .dict q =>
      let xs := h.dicts.getD p []
      let ys := h.dicts.getD q []
      if xs.length != ys.length then return false
      -- keys are distinct, so with as many pairs one direction is enough
      xs.allM fun (key, x) => do
        match ← ys.findM? fun (other, _) => Value.matchesIn h fuel other key with
        | some (_, y) => Value.matchesIn h fuel x y
        | .none => return false
    -- a view of values is made anew whenever it is asked for, and equals no other one
    | .dictView .values _, .dictView _ _ => return false
    | .dictView _ _, .dictView .values _ => return false
    | .dictView part p, .dictView other q =>
      let xs := viewItems part (h.dicts.getD p [])
      let ys := viewItems other (h.dicts.getD q [])
      if xs.length != ys.length then return false
      xs.allM fun x => ys.anyM fun y => Value.matchesIn h fuel y x
    | .method a name, .method b other => return name == other && a.same b
    | a, b => return a.same b

/-- Two values are the very same or equal. -/
def Value.matchesIn (h : Heap) : Nat → Value → Value → Except Fault Bool
  | 0, _, _ => .error ⟨.recursion, Fault.tooDeep.message ++ " in comparison"⟩
  | fuel + 1, a, b => if a.same b then .ok true else Value.equalsIn h fuel a b

/-- Two sequences have items that match. -/
def equalItems (h : Heap) : Nat → List Value → List Value → Except Fault Bool
  | 0, _, _ => .error ⟨.recursion, Fault.tooDeep.message ++ " in comparison"⟩
  | fuel + 1, xs, ys => do
    if xs.length != ys.length then return false
    (xs.zip ys).allM fun (x, y) => Value.matchesIn h fuel x y

end

/-- Two values are equal. -/
def Value.equals (h : Heap) (a b : Value) : Except Fault Bool := a.equalsIn h comparedDepth b

/-- Two values are the very same or equal. -/
def Value.fits (h : Heap) (a b : Value) : Except Fault Bool := a.matchesIn h comparedDepth b

/-! ### Order -/

/-- The sign of an ordering operator. -/
def CompareOp.sign : CompareOp → String
  | .eq => "=="
  | .ne => "!="
  | .lt => "<"
  | .le => "<="
  | .gt => ">"
  | .ge => ">="
  | .inside => "in"
  | .notInside => "not in"

/-- An ordering operator accepts an order. -/
def CompareOp.accepts : CompareOp → Ordering → Bool
  | .lt, o => o == .lt
  | .le, o => o != .gt
  | .gt, o => o == .gt
  | .ge, o => o != .lt
  | .eq, o => o == .eq
  | _, o => o != .eq

/-- An ordering operator holds between two values. -/
def Value.orderedIn (h : Heap) (op : CompareOp) : Nat → Value → Value → Except Fault Bool
  | 0, _, _ => .error ⟨.recursion, Fault.tooDeep.message ++ " in comparison"⟩
  | fuel + 1, a, b => do
    let sequences (xs ys : List Value) : Except Fault Bool := do
      let rec go : List Value → List Value → Except Fault Bool
        | x :: xs, y :: ys => do
          -- the first items that do not match decide
          if ← x.fits h y then go xs ys else orderedIn h op fuel x y
        | xs, ys => return op.accepts (compare xs.length ys.length)
      go xs ys
    match a, b with
    | .undefined message _, _ => .error ⟨.undefined, message⟩
    | _, .undefined message _ => .error ⟨.undefined, message⟩
    | a, b =>
      if let (some m, some n) := (a.number?, b.number?) then
        -- complex numbers have no order, and fall through to the fault
        if let some order := m.compare? n then return order.any op.accepts
      if let (some s, some t) := (a.string?, b.string?) then return op.accepts (compare s t)
      if let (some xs, some ys) := (a.tuple?, b.tuple?) then return ← sequences xs ys
      match a, b with
      | .list p, .list q => sequences (h.lists.getD p []) (h.lists.getD q [])
      | a, b => .error ⟨.type, Text.quotedString op.sign ++
          " not supported between instances of " ++ Text.quotedString (a.typeName h) ++ " and " ++
          Text.quotedString (b.typeName h)⟩

/-- An ordering operator holds between two values. -/
def Value.ordered (h : Heap) (op : CompareOp) (a b : Value) : Except Fault Bool :=
  a.orderedIn h op comparedDepth b

/-- Values are put in order by a key.  An initial run that is in order already, or strictly in the
opposite order, is taken as it is; every further item is put behind the last item that is not
greater. -/
def sortItems {α : Type} (before : α → α → Except Fault Bool) (items : List α) :
    Except Fault (List α) := do
  let (run, rest) ← initialRun items
  rest.foldlM (fun sorted x => insert sorted x) run
where
  /-- The longest initial run in order, and the rest. -/
  initialRun : List α → Except Fault (List α × List α)
    | x :: y :: rest => do
      if ← before y x then
        let (run, rest) ← falling [y, x] y rest
        return (run, rest)
      else
        let (run, rest) ← rising [y, x] y rest
        return (run.reverse, rest)
    | items => return (items, [])
  /-- Goes on with a run in order, the last item of which comes first. -/
  rising (run : List α) (last : α) : List α → Except Fault (List α × List α)
    | x :: rest => do
      if ← before x last then return (run, x :: rest) else rising (x :: run) x rest
    | [] => return (run, [])
  /-- Goes on with a run strictly in the opposite order, the least item of which comes first. -/
  falling (run : List α) (last : α) : List α → Except Fault (List α × List α)
    | x :: rest => do
      if ← before x last then falling (x :: run) x rest else return (run, x :: rest)
    | [] => return (run, [])
  /-- The number of items that an item comes behind, found by halving. -/
  position (sorted : Array α) (x : α) : Nat → Nat → Nat → Except Fault Nat
    | 0, low, _ => return low
    | fuel + 1, low, high => do
      if low ≥ high then return low
      let middle := (low + high) / 2
      match sorted[middle]? with
      | some y =>
        if ← before x y then position sorted x fuel low middle
        else position sorted x fuel (middle + 1) high
      | none => return low
  /-- Puts an item into a sequence in order. -/
  insert (sorted : List α) (x : α) : Except Fault (List α) := do
    let n ← position sorted.toArray x (sorted.length + 1) 0 sorted.length
    return sorted.take n ++ x :: sorted.drop n

/-! ### Truth and keys -/

/-- A value counts as true. -/
def Value.isTrue (h : Heap) : Value → Except Fault Bool
  | .none => .ok false
  | .bool b => .ok b
  | .int n => .ok (n != 0)
  | .float x => .ok (x != 0)
  | .nan _ => .ok true
  | .complex re im => .ok (re != 0 || im != 0)
  | .text s => .ok (!s.isEmpty)
  | .markup s => .ok (!s.isEmpty)
  | .tuple items => .ok (!items.isEmpty)
  | .range start stop step => .ok (rangeLength start stop step != 0)
  | .list place => .ok (!(h.lists.getD place []).isEmpty)
  | .dict place => .ok (!(h.dicts.getD place []).isEmpty)
  | .dictView _ place => .ok (!(h.dicts.getD place []).isEmpty)
  | .undefined _ true => .ok false
  | .undefined message false => .error ⟨.undefined, message⟩
  | _ => .ok true

/-- A value can be a key: it cannot change. -/
def Value.checkKey (h : Heap) : Value → Except Fault Unit
  | .tuple items => checkKeys items
  | .group _ items => items.checkKey h
  | .undefined message false => .error ⟨.undefined, message⟩
  | .list _ => .error ⟨.type, "unhashable type: 'list'"⟩
  | .dict _ => .error ⟨.type, "unhashable type: 'dict'"⟩
  | .dictView .values _ => .ok ()
  | .dictView part _ => .error ⟨.type, "unhashable type: " ++ Text.quotedString part.typeName⟩
  | _ => .ok ()
where
  /-- All values can be keys. -/
  checkKeys : List Value → Except Fault Unit
    | [] => .ok ()
    | v :: vs => do
      v.checkKey h
      checkKeys vs

/-- The value of a key. -/
def findKey? (h : Heap) (key : Value) : List (Value × Value) → Except Fault (Option Value)
  | [] => .ok none
  | (k, v) :: rest => do
    if ← k.fits h key then return some v else findKey? h key rest

/-- Sets the value of a key: a new key comes last, an old one keeps its place. -/
def setKey (h : Heap) (key value : Value) :
    List (Value × Value) → Except Fault (List (Value × Value))
  | [] => .ok [(key, value)]
  | (k, v) :: rest => do
    if ← k.fits h key then return (k, value) :: rest
    else return (k, v) :: (← setKey h key value rest)

namespace Eval

/-- Two values are equal. -/
def equals (a b : Value) : Eval Bool := reading fun h => a.equals h b

/-- Two values are the very same or equal. -/
def fits (a b : Value) : Eval Bool := reading fun h => a.fits h b

/-- An ordering operator holds between two values. -/
def ordered (op : CompareOp) (a b : Value) : Eval Bool := reading fun h => a.ordered h op b

/-- A value counts as true. -/
def isTrue (v : Value) : Eval Bool := reading fun h => v.isTrue h

end Eval
end ApiScribe.Template
