import ApiScribe.Template.Method.Collection

/-!
# Filters on sequences

Filters that look at the items of a value at once.
-/

namespace ApiScribe.Template.Eval

/-- The first item. -/
def firstItem (v : Value) : Eval Value := do
  return (← next? (← cursorOf v)).getD (.undefined "No first item, sequence was empty." false)

/-- The last item. -/
def lastItem (v : Value) : Eval Value := do
  return (← next? (← reversed v)).getD (.undefined "No last item, sequence was empty." false)

/-- The items in the opposite order. -/
def reverseItems (v : Value) : Eval Value := do
  match v with
  | .text s => return .text (String.ofList s.toList.reverse)
  | .markup s => return .markup (String.ofList s.toList.reverse)
  | v =>
    match ← attempt (reversed v) with
    | .ok place => return .cursor place
    | .error fault =>
      if fault.kind ≠ .type then ofExcept (.error fault)
      else
        match ← attempt (itemsOf v) with
        | .ok items => newList items.reverse
        | .error fault =>
          if fault.kind = .type then failArgument "argument must be iterable"
          else ofExcept (.error fault)

/-- The attributes to sort by, of which there can be several. -/
def sortAttributes (path : Value) : Eval (List (List Value)) := do
  match path.string? with
  | some s => (Text.splitOn ',' s.toList).mapM fun part => attributeParts (ofChars part)
  | none => return [← attributeParts path]

/-- Sorts items. -/
def sort (v descending caseMatters path : Value) : Eval Value := do
  let caseMatters ← isTrue caseMatters
  let attributes ← sortAttributes path
  let items ← itemsOf v
  let descending ← integerArgument descending
  let keyed ← items.mapM fun item => do
    let keys ← attributes.mapM fun parts =>
      return caseKey caseMatters (← follow parts .none item)
    return (Value.tuple keys, item)
  newList ((← sortKeyed (descending != 0) keyed).map (·.2))

/-- The item of a cursor that comes first by an operator; `best` is the first one so far, with its
key. -/
def extremeFrom (op : CompareOp) (key : Value → Eval Value) (place : Nat) :
    Nat → Value × Value → Eval Value
  | 0, best => return best.2
  | fuel + 1, best => do
    match ← next? place with
    | none => return best.2
    | some item =>
      let k ← key item
      extremeFrom op key place fuel (if ← ordered op k best.1 then (k, item) else best)

/-- The item that comes first by an operator. -/
def extreme (op : CompareOp) (v caseMatters path : Value) : Eval Value := do
  let place ← cursorOf v
  match ← next? place with
  | none => return .undefined "No aggregated item, sequence was empty." false
  | some first =>
    let caseMatters ← isTrue caseMatters
    let parts ← attributeParts path
    let key (item : Value) : Eval Value := return caseKey caseMatters (← follow parts .none item)
    extremeFrom op key place itemLimit (← key first, first)

/-- The sum of the items. -/
def sum (v path start : Value) : Eval Value := do
  let parts ← attributeParts path
  let place ← cursorOf v
  if start.string?.isSome then failType "sum() can't sum strings [use ''.join(seq) instead]"
  foldCursor (fun total item => do applyBinary .add total (← follow parts .none item)) place
    itemLimit start

/-- The pairs of a dictionary, sorted. -/
def sortPairs (v caseMatters by_ descending : Value) : Eval Value := do
  let onValues ← if ← equals by_ (.text "key") then pure false
    else if ← equals by_ (.text "value") then pure true
    else failArgument "You can only sort by either \"key\" or \"value\""
  match v with
  | .undefined message _ => failUndefined message
  | .dict place =>
    let pairs ← dictAt place
    let descending ← integerArgument descending
    let keyed ← pairs.mapM fun (k, x) => do
      let key := if onValues then x else k
      return (caseKey (← isTrue caseMatters) key, Value.tuple [k, x])
    newList ((← sortKeyed (descending != 0) keyed).map (·.2))
  | v => fail .member (Text.quotedString (← typeName v) ++ " object has no attribute 'items'")

/-- Items in groups of one key. -/
def groupRuns : List (Value × Value) → Eval (List (Value × List Value))
  | [] => return []
  | (key, item) :: rest => do
    match ← groupRuns rest with
    | (other, items) :: groups =>
      if ← fits key other then return (key, item :: items) :: groups
      else return (key, [item]) :: (other, items) :: groups
    | [] => return [(key, [item])]

/-- Groups the items by a key. -/
def groupBy (v path fallback caseMatters : Value) : Eval Value := do
  let caseMatters ← isTrue caseMatters
  let parts ← attributeParts path
  let items ← itemsOf v
  let keyed ← items.mapM fun item =>
    return (caseKey caseMatters (← follow parts fallback item), item)
  let groups ← groupRuns (← sortKeyed false keyed)
  newList (← groups.mapM fun (key, items) => do
    -- the key is shown as it is in the first item
    let shown ← match items with
      | item :: _ => if caseMatters then pure key else follow parts fallback item
      | [] => pure key
    return .group shown (← newList items))

/-- One of the items; which one is left open. -/
def anyItem (v : Value) : Eval Value := do
  if (← length v) = 0 then return .undefined "No random item, sequence was empty." false
  match ← element? v (.int 0) with
  | some item => return item
  | none =>
    match v with
    | .dict _ => fail .key "0"
    | v => failType (Text.quotedString (← typeName v) ++ " object is not subscriptable")

end ApiScribe.Template.Eval
