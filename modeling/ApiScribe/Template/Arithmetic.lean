import ApiScribe.Template.Fill

/-!
# Operators

Numbers are computed with.  Texts, lists and tuples can be added and multiplied, and a text can be
filled in with values.  What is added to a text that needs no escaping is escaped.
-/

namespace ApiScribe.Template

/-- The sign of an operator in messages. -/
def BinaryOp.sign : BinaryOp → String
  | .add => "+"
  | .sub => "-"
  | .mul => "*"
  | .div => "/"
  | .floorDiv => "//"
  | .mod => "%"
  | .pow => "** or pow()"

namespace Eval

/-- A number as a value. -/
def ofNumber : Number → Eval Value
  | .int n => return .int n
  | .float x => ofFloat x
  | .complex re im => return .complex re im

/-- The sequence that a value is, and the value of a sequence like it. -/
def sequence? (v : Value) : Eval (Option (List Value × (List Value → Eval Value))) := do
  match v with
  | .list place => return some (← listAt place, newList)
  | v => return v.tuple?.map fun items => (items, fun items => return .tuple items)

/-- The most characters or items of a value that is made. -/
def sizeLimit : Nat := Decimal.twoTo 36

/-- The number of copies in a sequence that is so often repeated. -/
def copyCount (isText : Bool) (size : Nat) (n : Int) : Eval Nat := do
  if !fitsWord n then
    fail .overflow "cannot fit 'int' into an index-sized integer"
  let total := size * n.toNat
  if total ≤ sizeLimit then return if size = 0 then 0 else n.toNat
  else if isText && !fitsWord total then fail .overflow "repeated string is too long"
  else fail .memory ""

/-- A sequence several times in a row. -/
def copies {α : Type} (n : Nat) (items : List α) : List α := (List.replicate n items).flatten

/-- A text or sequence, several times in a row. -/
def repeatValue (v times : Value) : Eval (Option Value) := do
  let copiesOf (s : String) (n : Int) : Eval String := do
    return String.ofList (copies (← copyCount true s.length n) s.toList)
  let misfit : Eval (Option Value) := do
    failType ("can't multiply sequence by non-int of type " ++
      Text.quotedString (← typeName times))
  match v, ← sequence? v, times.integer? with
  | .markup s, _, some n => return some (.markup (← copiesOf s n))
  | .markup _, _, none => return none
  | .text s, _, some n => return some (.text (← copiesOf s n))
  | .text _, _, none => misfit
  | _, some (items, make), some n =>
    return some (← make (copies (← copyCount false items.length n) items))
  | _, some _, none => misfit
  | _, none, _ => return none

/-- An operator does not apply to the types of its operands. -/
def unsupported (sign : String) (a b : Value) : Eval Value := do
  failType ("unsupported operand type(s) for " ++ sign ++ ": " ++
    Text.quotedString (← typeName a) ++ " and " ++ Text.quotedString (← typeName b))

/-- The sum of values that are no numbers. -/
def addOthers (a b : Value) : Eval Value := do
  let misfit (what : String) : Eval Value := do
    failType ("can only concatenate " ++ what ++ " (not \"" ++ (← typeName b) ++ "\") to " ++ what)
  match a, b with
  | .text s, .text t => return .text (s ++ t)
  | .markup s, .markup t => return .markup (s ++ t)
  | .markup s, .text t => return .markup (s ++ escapeMarkup t)
  | .text s, .markup t => return .markup (escapeMarkup s ++ t)
  | .text _, _ => misfit "str"
  | .list p, .list q => do newList ((← listAt p) ++ (← listAt q))
  | .list _, _ => misfit "list"
  | a, b =>
    match a.tuple?, b.tuple? with
    | some xs, some ys => return .tuple (xs ++ ys)
    | some _, none => misfit "tuple"
    | _, _ => unsupported "+" a b

/-- An operator between two values. -/
def applyBinary (op : BinaryOp) (a b : Value) : Eval Value := do
  match op, a.string?, b with
  | .mod, some s, b =>
    match a with
    | .markup _ => return .markup (String.ofList (← fillIn true s.toList b))
    | _ => return .text (String.ofList (← fillIn false s.toList b))
  | _, _, .undefined message _ =>
    match a with
    | .undefined message _ => failUndefined message
    | _ => failUndefined message
  | op, _, b =>
    match a with
    | .undefined message _ => failUndefined message
    | a =>
      match a.number?, b.number? with
      | some m, some n =>
        match m.combine? op n with
        | some result => do ofNumber (← ofExcept result)
        | none => unsupported op.sign a b
      | _, _ =>
        match op with
        | .add => addOthers a b
        | .mul =>
          match ← repeatValue a b with
          | some v => return v
          | none =>
            match ← repeatValue b a with
            | some v => return v
            | none => unsupported op.sign a b
        | op => unsupported op.sign a b

/-- An operator before a value. -/
def applyUnary (op : UnaryOp) (v : Value) : Eval Value := do
  let misfit (sign : String) : Eval Value := do
    failType ("bad operand type for unary " ++ sign ++ ": " ++ Text.quotedString (← typeName v))
  match op, v, v.number? with
  | .not, v, _ => return .bool !(← isTrue v)
  | _, .undefined message _, _ => failUndefined message
  | .neg, _, some a => ofNumber a.negate
  | .pos, .nan id, _ => return .nan id
  | .pos, _, some a => ofNumber a
  | .neg, _, none => misfit "-"
  | .pos, _, none => misfit "+"

end Eval
end ApiScribe.Template
