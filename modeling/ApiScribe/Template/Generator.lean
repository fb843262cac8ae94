import ApiScribe.Template.Filter

/-!
# Generators

A filter that gives its items one after the other looks at its arguments when the first item is
asked for, and then takes from its source only what it needs for the next item.  While it looks for
an item it cannot be asked for another one; after a fault it gives none.
-/

namespace ApiScribe.Template
namespace Eval

/-- A cursor that gives what is already known. -/
def known (items : List Value) : Cursor := .values "generator" items

/-- The items in so many columns; a fallback fills up the shorter ones. -/
def columns (v count fallback : Value) : Eval (List Value) := do
  let items ← itemsOf v
  let size ← applyBinary .floorDiv (.int items.length) count
  let extra ← applyBinary .mod (.int items.length) count
  let n := (← integerArgument count).toNat
  let size := (size.integer?.getD 0).toNat
  let extra := (extra.integer?.getD 0).toNat
  (List.range n).mapM fun i => do
    let start := i * size + min i extra
    let part := (items.drop start).take (size + if i < extra then 1 else 0)
    newList (match fallback with
      | .none => part
      | fallback => if extra ≤ i then part ++ [fallback] else part)

/-- The pairs of a dictionary. -/
def pairCursor (v : Value) : Eval Cursor := do
  match v with
  | .undefined _ _ => return known []
  | .dict place => return .pairs .items place (← dictAt place).length 0 false
  | _ => failType "Can only get item pairs from a mapping."

/-- What is done to each item by the filter that applies a filter or follows an attribute. -/
def mapTask (args : Actuals) : Eval Task := do
  match args.positional, args.named.lookup "attribute" with
  | [], some path =>
    match args.named.filter fun (k, _) => k != "attribute" && k != "default" with
    | (k, _) :: _ => failArgument ("Unexpected keyword argument " ++ Text.quotedString k)
    | [] => return .follow (← attributeParts path) ((args.named.lookup "default").getD .none)
  | [], none => failArgument "map requires a filter argument"
  | filter :: more, _ => return .filtered filter { args with positional := more }

/-- What is done to each item by a filter that keeps some of them. -/
def keepTask (wanted ofAttribute : Bool) (args : Actuals) : Eval Task := do
  let (parts, more) ← if ofAttribute then
      match args.positional with
      | [] => failArgument "Missing parameter for attribute name"
      | path :: more => pure (← attributeParts path, more)
    else pure ([], args.positional)
  return .keep wanted parts more.head? { args with positional := more.drop 1 }

/-- The cursor of a task on the items of a value; there are none if the value does not count as
true. -/
def workOn (v : Value) (task : Eval Task) : Eval Cursor := do
  if ← isTrue v then
    let task ← task
    return .working task (← cursorOf v)
  else return known []

/-- A filter that begins. -/
def start (filter : String) (args : Actuals) : Eval Cursor := do
  match filter, args.positional with
  | "batch", [v, size, fallback] => return .working (.batch size fallback []) (← cursorOf v)
  | "slice", [v, count, fallback] => return known (← columns v count fallback)
  | "items", [v] => pairCursor v
  | "unique", [v, caseMatters, path] =>
    let caseMatters ← isTrue caseMatters
    let parts ← attributeParts path
    return .working (.unique caseMatters parts []) (← cursorOf v)
  | "map", v :: more => workOn v (mapTask { args with positional := more })
  | "select", v :: more => workOn v (keepTask true false { args with positional := more })
  | "reject", v :: more => workOn v (keepTask false false { args with positional := more })
  | "selectattr", v :: more => workOn v (keepTask true true { args with positional := more })
  | "rejectattr", v :: more => workOn v (keepTask false true { args with positional := more })
  | _, _ => return known []

/-- What a step of a task comes to. -/
inductive Step where
  /-- The task goes on to the next item. -/
  | skip (task : Task)
  | yield (v : Value) (task : Task)

/-- The part of an item passes a test; without a test it has to count as true. -/
def passes (test : Option Value) (args : Actuals) (part : Value) : Eval Bool :=
  match test with
  | none => isTrue part
  | some test => runNamedTest test part args

/-- What a task does with an item; `condition` tells what the condition of a loop makes of one. -/
def Task.step (condition : Frame → Target → Expr → Value → Eval (Option Value)) (task : Task)
    (item : Value) : Eval Step := do
  match task with
  | .follow parts fallback => return .yield (← follow parts fallback item) task
  | .filtered filter args => return .yield (← applyNamedFilter filter item args) task
  | .keep wanted parts test args =>
    let part ← follow parts .none item
    -- the test looks at the part, but it is the whole item that is kept
    if (← passes test args part) == wanted then return .yield item task else return .skip task
  | .unique caseMatters parts seen =>
    let key := caseKey caseMatters (← follow parts .none item)
    reading (key.checkKey ·)
    if ← seen.anyM fun other => fits other key then return .skip task
    else return .yield item (.unique caseMatters parts (key :: seen))
  | .batch size fallback held =>
    if ← equals (.int held.length) size then
      return .yield (← newList held) (.batch size fallback [item])
    else return .skip (.batch size fallback (held ++ [item]))
  | .condition frame target test =>
    match ← condition frame target test item with
    | some v => return .yield v task
    | none => return .skip task

/-- What a task gives when its source has no more items. -/
def Task.finish (task : Task) : Eval (Option Value) := do
  match task with
  | .batch size fallback held =>
    if held.isEmpty then return none
    let n : Value := .int held.length
    match fallback with
    | .none => return some (← newList held)
    | fallback =>
      let filled ← if ← ordered .lt n size then do
          let one ← newList [fallback]
          itemsOf (← applyBinary .mul one (← applyBinary .sub size n))
        else pure []
      return some (← newList (held ++ filled))
  | _ => return none

/-- The next item of a task and the cursor that goes on after it, found in at most `fuel` steps. -/
def work (condition : Frame → Target → Expr → Value → Eval (Option Value)) (source : Nat) :
    Nat → Task → Eval (Option Value × Cursor)
  | 0, _ => return (none, known [])
  | fuel + 1, task => do
    match ← next? source with
    | none => return (← Task.finish task, known [])
    | some item =>
      match ← Task.step condition task item with
      | .skip task => work condition source fuel task
      | .yield v task => return (some v, .working task source)

/-- The next item of a cursor that is at work on another one, and the cursor after it. -/
def proceed (condition : Frame → Target → Expr → Value → Eval (Option Value)) (c : Cursor)
    (place : Nat) : Eval (Option Value × Cursor) := do
  match c with
  | .waiting filter args =>
    match ← start filter args with
    | .working task source => work condition source itemLimit task
    | begun =>
      setCursor place begun
      let v ← nextSimple? place begun
      return (v, ← cursorAt place)
  | .working task source => work condition source itemLimit task
  | .busy => fail .value "generator already executing"
  | c =>
    let v ← nextSimple? place c
    return (v, ← cursorAt place)

/-- The next item of the cursor at a place, which is at work on another one. -/
def pullCursor (condition : Frame → Target → Expr → Value → Eval (Option Value)) (place : Nat) :
    Eval (Option Value) := do
  match ← cursorAt place with
  | .busy => fail .value "generator already executing"
  | c =>
    -- what is run to find the item may ask for an item of the same cursor
    setCursor place .busy
    match ← attempt (proceed condition c place) with
    | .ok (v, after) =>
      setCursor place after
      return v
    | .error fault =>
      setCursor place (known [])
      ofExcept (.error fault)

end Eval
end ApiScribe.Template
