import ApiScribe.Template.Signature

/-!
# Methods of lists, tuples, ranges and dictionaries

An item is found if it is the same as what is looked for, or equal to it.
-/

namespace ApiScribe.Template
namespace Eval

/-! ### Lists, tuples and ranges -/

/-- The indices between which an item is looked for. -/
def indexEnds (n : Nat) (ends : List Value) : Eval (Nat × Nat) := do
  let fit (v : Option Value) (fallback : Nat) : Eval Nat := do
    match v with
    | none => return fallback
    | some v =>
      match v.integer? with
      | some i => return (if i < 0 then i + n else i).toNat
      | none => failType "slice indices must be integers or have an __index__ method"
  let start ← fit ends[0]? 0
  return (start, ← fit ends[1]? n)

/-- The index of the first item that fits a value. -/
def indexOf? (items : List Value) (v : Value) : Eval (Option Nat) := do
  let found ← items.zipIdx.findM? fun (item, _) => fits item v
  return found.map (·.2)

/-- The index of an item between ends. -/
def indexBetween? (items : List Value) (v : Value) (ends : List Value) : Eval (Option Nat) := do
  let (start, stop) ← indexEnds items.length ends
  return (← indexOf? ((items.take stop).drop start) v).map (start + ·)

/-- The number of items that fit a value. -/
def countOf (items : List Value) (v : Value) : Eval Nat := do
  return (← items.filterM fun item => fits item v).length

/-- The place in a list before which an item is put. -/
def insertionPlace (n : Nat) (i : Int) : Nat :=
  (if i < 0 then max 0 (i + n) else min i n).toNat

/-- Items with their keys, in the order of the keys. -/
def sortKeyed (descending : Bool) (keyed : List (Value × Value)) : Eval (List (Value × Value)) :=
  reading fun h => do
    -- turned around before and after, so that items with equal keys keep their order
    let keyed := if descending then keyed.reverse else keyed
    let sorted ← sortItems (fun a b => a.1.ordered h .lt b.1) keyed
    return if descending then sorted.reverse else sorted

/-- Puts the items of a list in order. -/
def sortList (place : Nat) (args : Actuals) : Eval Value := do
  if !args.positional.isEmpty then failType "sort() takes no positional arguments"
  for (name, _) in args.named do
    if name != "key" && name != "reverse" then
      failType (Text.quotedString name ++ " is an invalid keyword argument for sort()")
  match (args.named.lookup "key").getD .none with
  | .none =>
    let descending ← integerArgument ((args.named.lookup "reverse").getD (.bool false))
    let keyed := (← listAt place).map fun v => (v, v)
    setList place ((← sortKeyed (descending != 0) keyed).map (·.2))
    return .none
  | _ => unsupportedMethod ⟨"list", "sort"⟩

/-- Calls a method of a list. -/
def callList (place : Nat) (name : String) (args : Actuals) : Eval Value := do
  let m : MethodName := ⟨"list", name⟩
  let items ← listAt place
  match name with
  | "append" =>
    let v ← oneArgument m args
    setList place (items ++ [v])
    return .none
  | "extend" =>
    let more ← itemsOf (← oneArgument m args)
    -- taking the items may have changed the list
    setList place ((← listAt place) ++ more)
    return .none
  | "insert" =>
    match ← someArguments m 2 2 args with
    | [i, v] =>
      let n := insertionPlace items.length (← sizeArgument i)
      setList place (items.take n ++ v :: items.drop n)
      return .none
    | _ => return .none
  | "index" =>
    match ← someArguments m 1 3 args with
    | v :: ends =>
      match ← indexBetween? items v ends with
      | some i => return .int i
      | none => fail .value ((← literal v) ++ " is not in list")
    | [] => return .none
  | "count" => return .int (← countOf items (← oneArgument m args))
  | "pop" =>
    let i ← match ← someArguments m 0 1 args with
      | v :: _ => sizeArgument v
      | [] => pure (-1)
    if items.isEmpty then fail .index "pop from empty list"
    match atIndex? items i with
    | some v =>
      setList place (items.eraseIdx (if i < 0 then i + items.length else i).toNat)
      return v
    | none => fail .index "pop index out of range"
  | "remove" =>
    match ← indexOf? items (← oneArgument m args) with
    | some i =>
      setList place (items.eraseIdx i)
      return .none
    | none => fail .value "list.remove(x): x not in list"
  | "clear" =>
    noArguments m args
    setList place []
    return .none
  | "copy" =>
    noArguments m args
    newList items
  | "reverse" =>
    noArguments m args
    setList place items.reverse
    return .none
  | "sort" => sortList place args
  | _ => unsupportedMethod m

/-- Calls a method of a tuple. -/
def callTuple (items : List Value) (name : String) (args : Actuals) : Eval Value := do
  let m : MethodName := ⟨"tuple", name⟩
  match name with
  | "count" => return .int (← countOf items (← oneArgument m args))
  | "index" =>
    match ← someArguments m 1 3 args with
    | v :: ends =>
      match ← indexBetween? items v ends with
      | some i => return .int i
      | none => fail .value "tuple.index(x): x not in tuple"
    | [] => return .none
  | _ => unsupportedMethod m

/-- Calls a method of a range. -/
def callRange (start stop step : Int) (name : String) (args : Actuals) : Eval Value := do
  let m : MethodName := ⟨"range", name⟩
  let v ← oneArgument m args
  let found ← match v.integer? with
    | some n => pure (if rangeContains start stop step n then some ((n - start) / step) else none)
    | none => do
      pure ((← indexOf? (rangeItems start stop step) v).map Int.ofNat)
  match name, found with
  | "count", found => return .int (if found.isSome then 1 else 0)
  | "index", some i => return .int i
  | "index", none =>
    if v.integer?.isSome then fail .value ((← literal v) ++ " is not in range")
    else fail .value "sequence.index(x): x not in sequence"
  | _, _ => unsupportedMethod m

/-! ### Dictionaries -/

/-- The pairs of the items of a value. -/
def pairsOf (v : Value) : Eval (List (Value × Value)) := do
  match v with
  | .dict place => dictAt place
  | v =>
    let items ← itemsOf v
    items.zipIdx.mapM fun (item, i) => do
      match ← attempt (itemsOf item) with
      | .ok [k, x] => return (k, x)
      | .ok parts => fail .value ("dictionary update sequence element #" ++ toString i ++
          " has length " ++ toString parts.length ++ "; 2 is required")
      | .error fault =>
        if fault.kind = .type then
          failType ("cannot convert dictionary update sequence element #" ++ toString i ++
            " to a sequence")
        else ofExcept (.error fault)

/-- The pairs with further ones; a key that is there already keeps its place. -/
def withPairs (pairs more : List (Value × Value)) : Eval (List (Value × Value)) :=
  more.foldlM (fun acc (k, v) => do
    reading (k.checkKey ·)
    reading (setKey · k v acc)) pairs

/-- The pairs of the arguments of a call that makes or changes a dictionary. -/
def pairArguments (name : String) (args : Actuals) (pairs : List (Value × Value)) :
    Eval (List (Value × Value)) := do
  let given ← match args.positional with
    | [] => pure []
    | [v] => pairsOf v
    | vs => failType (name ++ " expected at most 1 argument, got " ++ toString vs.length)
  withPairs pairs (given ++ args.named.map fun (k, v) => (.text k, v))

/-- Calls a method of a dictionary. -/
def callDict (place : Nat) (name : String) (args : Actuals) : Eval Value := do
  let m : MethodName := ⟨"dict", name⟩
  let pairs ← dictAt place
  let at? (key : Value) : Eval (Option Value) := do
    reading (key.checkKey ·)
    reading (findKey? · key pairs)
  let without (key : Value) : Eval (List (Value × Value)) :=
    pairs.filterM fun (k, _) => return !(← fits k key)
  match name with
  | "items" =>
    noArguments m args
    return .dictView .items place
  | "keys" =>
    noArguments m args
    return .dictView .keys place
  | "values" =>
    noArguments m args
    return .dictView .values place
  | "get" =>
    match ← someArguments m 1 2 args with
    | key :: more => return (← at? key).getD (more.headD .none)
    | [] => return .none
  | "pop" =>
    match ← someArguments m 1 2 args with
    | key :: more =>
      -- an empty dictionary does not even look at the key
      let found ← if pairs.isEmpty then pure none else at? key
      match found, more with
      | some v, _ =>
        setDict place (← without key)
        return v
      | none, v :: _ => return v
      | none, [] => fail .key (← literal key)
    | [] => return .none
  | "popitem" =>
    noArguments m args
    match pairs.getLast? with
    | some (k, v) =>
      setDict place pairs.dropLast
      return .tuple [k, v]
    | none => fail .key "'popitem(): dictionary is empty'"
  | "setdefault" =>
    match ← someArguments m 1 2 args with
    | key :: more =>
      match ← at? key with
      | some v => return v
      | none =>
        setDict place (pairs ++ [(key, more.headD .none)])
        return more.headD .none
    | [] => return .none
  | "update" =>
    setDict place (← pairArguments "update" args pairs)
    return .none
  | "fromkeys" =>
    match ← someArguments m 1 2 args with
    | keys :: more =>
      newDict (← withPairs [] ((← itemsOf keys).map fun k => (k, more.headD .none)))
    | [] => return .none
  | "copy" =>
    noArguments m args
    newDict pairs
  | "clear" =>
    noArguments m args
    setDict place []
    return .none
  | _ => unsupportedMethod m

end Eval
end ApiScribe.Template
