import ApiScribe.Template.Compare

/-!
# Iteration

A value that can be iterated over is turned into a cursor.  A list is walked as it is at each step,
so that items added on the way are met; a dictionary must not grow or shrink on the way; anything
else is fixed when the walk begins.  A running loop looks one item ahead when it is asked about its
end.
-/

namespace ApiScribe.Template
namespace Eval

/-- The most items that are taken from a cursor. -/
def itemLimit : Nat := 1000000000

/-- A text of one character. -/
def ofChar (c : Char) : Value := .text (String.singleton c)

/-- The items of a value with fixed items. -/
def fixedItems? (v : Value) : Eval (Option (List Value)) := do
  match v with
  | .text s => return some (s.toList.map ofChar)
  | .markup s => return some (s.toList.map ofChar)
  | .range start stop step => return some (rangeItems start stop step)
  | .list place => return some (← listAt place)
  | .dict place => return some (viewItems .keys (← dictAt place))
  | .dictView part place => return some (viewItems part (← dictAt place))
  | v => return v.tuple?

/-- Ends because a value cannot be iterated over. -/
def failIterate {α : Type} (v : Value) : Eval α := do
  failType (Text.quotedString (← typeName v) ++ " object is not iterable")

/-! ### Cursors -/

/-- The next pair of a walk through a dictionary, as the walk shows it. -/
def nextPair? (place : Nat) (part : DictPart) (dict size taken : Nat) (backwards : Bool) :
    Eval (Option Value) := do
  let pairs ← dictAt dict
  if pairs.length ≠ size then
    fail .change "dictionary changed size during iteration"
  let following : Cursor := .pairs part dict size (taken + 1) backwards
  match (viewItems part (if backwards then pairs.reverse else pairs))[taken]? with
  | some v =>
    setCursor place following
    return some v
  | none =>
    -- a walk that has ended stays so, whatever becomes of the dictionary
    setCursor place (.values following.typeName [])
    return none

/-- The next value of a cursor that is not at work on another one. -/
def nextSimple? (place : Nat) : Cursor → Eval (Option Value)
  | .values kind (v :: rest) => do
    setCursor place (.values kind rest)
    return some v
  | .values _ [] => return none
  | .numbers next (left + 1) step => do
    setCursor place (.numbers (next + step) left step)
    return some (.int next)
  | .numbers _ 0 _ => return none
  | .itemsFrom list index => do
    match (← listAt list)[index]? with
    | some v =>
      setCursor place (.itemsFrom list (index + 1))
      return some v
    | none =>
      setCursor place (.values "list_iterator" [])
      return none
  | .itemsBefore list index => do
    let items ← listAt list
    match index with
    | 0 => return none
    | index + 1 =>
      match items[index]? with
      | some v =>
        setCursor place (.itemsBefore list index)
        return some v
      | none =>
        setCursor place (.values "list_reverseiterator" [])
        return none
  | .pairs part dict size taken backwards => nextPair? place part dict size taken backwards
  | _ => fun m => m.pull place

/-- The next value of a cursor. -/
def next? (place : Nat) : Eval (Option Value) := do nextSimple? place (← cursorAt place)

/-- Takes the values that are left in a cursor, at most `fuel` of them. -/
def drainFrom (place : Nat) : Nat → List Value → Eval (List Value)
  | 0, found => return found.reverse
  | fuel + 1, found => do
    match ← next? place with
    | some v => drainFrom place fuel (v :: found)
    | none => return found.reverse

/-- The values that are left in a cursor, which is used up. -/
def drain (place : Nat) : Eval (List Value) := do
  match ← cursorAt place with
  | .values kind rest =>
    setCursor place (.values kind [])
    return rest
  | _ => drainFrom place itemLimit []

/-! ### Loops -/

/-- The next item of a loop, which is looked at and not taken. -/
def peek (place : Nat) : Eval (Option Value) := do
  let l ← loopAt place
  match l.after with
  | some v => return some v
  | none =>
    match ← next? l.cursor with
    | some v => do
      -- to find the item may have run code that asks the loop, so `l` may be out of date
      setLoop place { (← loopAt place) with after := some v }
      return some v
    | none => return none

/-- Takes the next item of a loop. -/
def advance (place : Nat) : Eval (Option Value) := do
  match ← peek place with
  | none => return none
  | some v =>
    let l ← loopAt place
    setLoop place { l with
      taken := l.taken + 1, before := l.current, current := some v, after := none }
    return some v

/-- The number of items of a value; none if it does not tell. -/
def size? (v : Value) : Eval (Option Nat) := do
  match v with
  | .undefined _ true => return some 0
  | .undefined message false => failUndefined message
  | .range start stop step =>
    let n := rangeLength start stop step
    if fitsWord n then return some n
    else fail .overflow "Python int too large to convert to C ssize_t"
  | .text s => return some s.length
  | .markup s => return some s.length
  | v => return (← fixedItems? v).map List.length

/-- The number of all items of a loop. -/
def loopLength (place : Nat) : Eval Nat := do
  let l ← loopAt place
  match l.length with
  | some n => return n
  | none =>
    let known ← match l.source with
      | .cursor _ => pure none
      | source => size? source
    match known with
    | some n =>
      setLoop place { l with length := some n }
      return n
    | none =>
      -- the items are counted by taking them, and the loop goes on with what was taken
      let rest ← drain l.cursor
      let cursor ← newCursor (.values "list_iterator" rest)
      let l ← loopAt place
      let n := rest.length + l.taken + (if l.after.isSome then 1 else 0)
      setLoop place { l with cursor := cursor, length := some n }
      return n

/-- The number of items of a value. -/
def length (v : Value) : Eval Nat := do
  match v with
  | .loop place => loopLength place
  | v =>
    match ← size? v with
    | some n => return n
    | none => failType ("object of type " ++ Text.quotedString (← typeName v) ++ " has no len()")

/-! ### Walking through values -/

/-- Takes items of a running loop, each with the loop, at most `fuel` of them. -/
def drainLoop (place : Nat) : Nat → List Value → Eval (List Value)
  | 0, found => return found.reverse
  | fuel + 1, found => do
    match ← advance place with
    | some v => drainLoop place fuel (.tuple [v, .loop place] :: found)
    | none => return found.reverse

/-- A cursor over the items of a value. -/
def cursorOf (v : Value) : Eval Nat := do
  match v with
  | .cursor place => return place
  | .list place => newCursor (.itemsFrom place 0)
  | .range start stop step => newCursor (.numbers start (rangeLength start stop step) step)
  | .dict place => newCursor (.pairs .keys place (← dictAt place).length 0 false)
  | .dictView part place => newCursor (.pairs part place (← dictAt place).length 0 false)
  | .undefined _ true => newCursor default
  | .undefined message false => failUndefined message
  | .loop place => do newCursor (.values "LoopContext" (← drainLoop place itemLimit []))
  | v =>
    match ← fixedItems? v with
    | some items => newCursor (.values "iterator" items)
    | none => failIterate v

/-- All items of a value. -/
def itemsOf (v : Value) : Eval (List Value) := do
  match v with
  | .cursor place => drain place
  | .loop place => drainLoop place itemLimit []
  | .undefined _ true => return []
  | .undefined message false => failUndefined message
  | v =>
    match ← fixedItems? v with
    | some items => return items
    | none => failIterate v

/-- Does a step with each value that is left in a cursor before it asks for the next one; at most
`fuel` of them. -/
def foldCursor {α : Type} (step : α → Value → Eval α) (place : Nat) : Nat → α → Eval α
  | 0, acc => return acc
  | fuel + 1, acc => do
    match ← next? place with
    | none => return acc
    | some v => foldCursor step place fuel (← step acc v)

/-- A cursor over the items of a value from the last one on. -/
def reversed (v : Value) : Eval Nat := do
  match v with
  | .undefined _ true => newCursor default
  | .undefined message false => failUndefined message
  | .list place => do newCursor (.itemsBefore place (← listAt place).length)
  | .range start stop step =>
    let n := rangeLength start stop step
    newCursor (.numbers (start + ((n : Int) - 1) * step) n (-step))
  | .dict place => do newCursor (.pairs .keys place (← dictAt place).length 0 true)
  | .dictView part place => do newCursor (.pairs part place (← dictAt place).length 0 true)
  | v =>
    match ← fixedItems? v with
    | some items => newCursor (.values "reversed" items.reverse)
    | none => failType (Text.quotedString (← typeName v) ++ " object is not reversible")

/-! ### Membership -/

/-- A value is among the items that a cursor gives; those up to it are taken. -/
def isAhead (place : Nat) (v : Value) : Nat → Eval Bool
  | 0 => return false
  | fuel + 1 => do
    match ← next? place with
    | none => return false
    | some item => if ← fits item v then return true else isAhead place v fuel

/-- A dictionary has a key. -/
def dictContains (place : Nat) (key : Value) : Eval Bool := do
  reading (key.checkKey ·)
  let pairs ← dictAt place
  return (← reading (findKey? · key pairs)).isSome

/-- A number is among the numbers of a range. -/
def rangeContains (start stop step n : Int) : Bool :=
  if 0 < step then start ≤ n && n < stop && (n - start) % step == 0
  else n ≤ start && stop < n && (start - n) % (-step) == 0

/-- A value holds another one. -/
def contains (container v : Value) : Eval Bool := do
  match container with
  | .undefined _ true => return false
  | .undefined message false => failUndefined message
  | .dict place => dictContains place v
  | .dictView .keys place => dictContains place v
  | .dictView .items place =>
    match v.tuple? with
    | some [key, x] =>
      reading (key.checkKey ·)
      let pairs ← dictAt place
      match ← reading (findKey? · key pairs) with
      | some y => fits y x
      | none => return false
    | _ => return false
  | container =>
    match container, container.string?, v.integer? with
    | .range start stop step, _, some n => return rangeContains start stop step n
    | _, some s, _ =>
      match v.string? with
      | some t => return (Text.cut? t.toList s.toList).isSome
      | none => failType ("'in <string>' requires string as left operand, not " ++
          (← typeName v))
    | container, none, _ =>
      match ← attempt (cursorOf container) with
      | .ok place => isAhead place v itemLimit
      | .error fault =>
        if fault.kind = .type then
          failType ("argument of type " ++ Text.quotedString (← typeName container) ++
            " is not iterable")
        else ofExcept (.error fault)

/-! ### Printing -/

/-- A value, once what it takes to show it is known: a loop is shown with its length. -/
def settle (v : Value) : Eval Unit := do
  if let .loop place := v then
    let _ ← loopLength place

/-- The text of a value as it is written in an expression. -/
def literal (v : Value) : Eval String := do
  settle v
  reading v.literal

/-- The text of a value as it is printed. -/
def display (v : Value) : Eval String := do
  settle v
  reading v.display

/-- Nothing, because a value lacks a member. -/
def lacksMember (v : Value) (name : String) : Eval Value := do
  return .undefined (Text.quotedString (v.described (← get)) ++ " has no attribute " ++
    Text.quotedString name) false

/-- Nothing, because a value lacks an element. -/
def lacksElement (v key : Value) : Eval Value := do
  match key with
  | .text name => lacksMember v name
  | .markup name => lacksMember v name
  | key =>
    let shown ← literal key
    return .undefined (v.described (← get) ++ " has no element " ++ shown) false

end Eval
end ApiScribe.Template
