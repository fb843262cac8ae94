import ApiScribe.Template.Signature

/-!
# Filters on numbers
-/

namespace ApiScribe.Template.Eval

/-- The integer that a text writes; base zero stands for the base that the text announces. -/
def readIntegerIn (base : Int) (cs : List Char) : Option Int :=
  let read (base : Nat) : Option Int :=
    match Text.readInteger base cs with
    | .ok n => some n
    | .error _ => none
  if base = 0 then
    match (Text.sign (Text.trimBlanks cs)).2 with
    | '0' :: c :: _ =>
      match c.toLower with
      | 'x' => read 16
      | 'o' => read 8
      | 'b' => read 2
      | _ => if cs.all fun c => !('1' ≤ c && c ≤ '9') then read 10 else none
    | _ => read 10
  else if 2 ≤ base ∧ base ≤ 36 then read base.toNat
  else none

/-- The whole number that a text writes with a fraction. -/
def wholeOfText? (cs : List Char) : Option Int := (Text.readFloat? cs).bind Decimal.truncate?

/-- A value as an integer; the fallback if it has none. -/
def toInteger (v fallback base : Value) : Eval Value := do
  match v, v.number?, v.string? with
  | .undefined message _, _, _ => failUndefined message
  | _, some (.int n), _ => return .int n
  | _, some (.float x), _ =>
    match Filling.wholePart x with
    | .ok n => return .int n
    | .error fault => if fault.kind = .value then return fallback else ofExcept (.error fault)
  | _, _, some s =>
    match base.integer?.bind fun b => readIntegerIn b s.toList with
    | some n => return .int n
    | none => return (wholeOfText? s.toList).elim fallback .int
  | _, _, none => return fallback

/-- A value as a float; the fallback if it has none. -/
def toFraction (v fallback : Value) : Eval Value := do
  match v, v.number?, v.string? with
  | .undefined message _, _, _ => failUndefined message
  | .nan id, _, _ => return .nan id
  | _, some (.complex _ _), _ => return fallback
  | _, some a, _ => do ofFloat (← ofExcept a.toFloat)
  | _, none, some s =>
    match Text.readFloat? s.toList with
    | some x => ofFloat x
    | none => return fallback
  | _, none, none => return fallback

/-- The size of a number without its sign. -/
def absolute (v : Value) : Eval Value := do
  match v.number? with
  | some (.int n) => return .int n.natAbs
  | some (.float x) => ofFloat x.abs
  | some (.complex re im) =>
    let size := Decimal.hypotenuse re im
    if size.isInf && !re.isInf && !im.isInf then fail .overflow "absolute value too large"
    ofFloat size
  | none => failType ("bad operand type for abs(): " ++ Text.quotedString (← typeName v))

/-- An integer rounded to tens, hundreds and so on. -/
def roundPlaces (n : Int) (places : Nat) : Int :=
  if n.natAbs.log2 + 2 < places then 0 else Decimal.roundInt n places

/-- A number rounded to the nearest one with so many decimals. -/
def roundNearest (v precision : Value) : Eval Value := do
  match v.number?, precision with
  | some (.int n), .none => return .int n
  | some (.int n), precision =>
    let places ← integerArgument precision
    return .int (if places < 0 then roundPlaces n (-places).toNat else n)
  | some (.float x), .none =>
    return .int (← ofExcept (Filling.wholePart (Decimal.roundFloat x 0)))
  | some (.float x), precision =>
    let y := Decimal.roundFloat x (← integerArgument precision)
    if y.isInf && !x.isInf then fail .overflow "rounded value too large to represent"
    ofFloat y
  | _, _ => failType ("type " ++ (← typeName v) ++ " doesn't define __round__ method")

/-- A number rounded up or down to so many decimals. -/
def roundTo (up : Bool) (v precision : Value) : Eval Value := do
  let scale ← applyBinary .pow (.int 10) precision
  let scaled ← applyBinary .mul v scale
  let whole ← match scaled.number? with
    | some (.int n) => pure n
    | some (.float x) =>
      if up then
        let n ← ofExcept (Filling.wholePart (-x).floor)
        pure (-n)
      else ofExcept (Filling.wholePart x.floor)
    | _ => failType ("must be real number, not " ++ (← typeName scaled))
  applyBinary .div (.int whole) scale

/-- A number rounded. -/
def round (v precision method : Value) : Eval Value := do
  reading (method.checkKey ·)
  match method.string? with
  | some "common" => roundNearest v precision
  | some "ceil" => roundTo true v precision
  | some "floor" => roundTo false v precision
  | _ => failArgument "method must be common, ceil or floor"

end ApiScribe.Template.Eval
