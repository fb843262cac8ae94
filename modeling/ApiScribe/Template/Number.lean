import ApiScribe.Decimal.Rounding
import ApiScribe.Template.Fault
import ApiScribe.Template.Tree

/-!
# Numbers

Integers are exact and of any size; as soon as a float takes part, or integers are divided, the
result is the nearest float.  A root of a negative number is complex.  Numbers are compared exactly
whatever their type.
-/

namespace ApiScribe.Template

/-- A number. -/
inductive Number where
  | int (n : Int)
  | float (x : Float)
  | complex (re im : Float)

namespace Number

/-- The failure of a division by zero. -/
def dividesByZero {α : Type} (message : String) : Except Fault α := .error ⟨.zeroDivision, message⟩

/-- The float nearest to an integer. -/
def nearest (n : Int) : Except Fault Float :=
  let x := Decimal.ofInt n
  if x.isInf then .error ⟨.overflow, "int too large to convert to float"⟩ else .ok x

/-! ### Integers -/

/-- The most bits of an integer that is computed. -/
def bitLimit : Nat := 100000000

/-- A power of an integer. -/
def powInt (m : Int) (n : Nat) : Except Fault Number :=
  if m.natAbs ≤ 1 ∨ n * (m.natAbs.log2 + 1) ≤ bitLimit then .ok (.int (Int.pow m n))
  else .error ⟨.memory, ""⟩

/-! ### Floats -/

/-- The size of the first number with the sign of the second one. -/
def withSign (x y : Float) : Float :=
  if y.toBits ≥ (-0.0 : Float).toBits then -x.abs else x.abs

/-- The quotient of two floats, rounded down, and the remainder, which has the sign of the
divisor. -/
def divMod (x y : Float) : Float × Float :=
  let rest := Decimal.remainder x y
  let quotient := (x - rest) / y
  -- the remainder of the truncated quotient may have the other sign
  let (quotient, rest) :=
    if rest == 0 then (quotient, withSign 0.0 y)
    else if decide (y < 0) != decide (rest < 0) then (quotient - 1.0, rest + y)
    else (quotient, rest)
  let rounded :=
    if quotient == 0 then withSign 0.0 (x / y)
    else
      let below := quotient.floor
      if quotient - below > 0.5 then below + 1.0 else below
  (rounded, rest)

/-- The float is an odd integer. -/
def isOdd (x : Float) : Bool := Decimal.remainder x.abs 2.0 == 1.0

/-! ### Complex numbers -/

/-- The product of two complex numbers. -/
def times (a b : Float × Float) : Float × Float :=
  (a.1 * b.1 - a.2 * b.2, a.1 * b.2 + a.2 * b.1)

/-- The quotient of two complex numbers, if the divisor is not zero. -/
def over? (a b : Float × Float) : Option (Float × Float) :=
  if b.1.abs ≥ b.2.abs then
    if b.1.abs == 0 then none
    else
      let ratio := b.2 / b.1
      let divisor := b.1 + b.2 * ratio
      some ((a.1 + a.2 * ratio) / divisor, (a.2 - a.1 * ratio) / divisor)
  else if b.2.abs ≥ b.1.abs then
    let ratio := b.1 / b.2
    let divisor := b.1 * ratio + b.2
    some ((a.1 * ratio + a.2) / divisor, (a.2 * ratio - a.1) / divisor)
  else some (0.0 / 0.0, 0.0 / 0.0)

/-- Multiplies `result` by powers of `a`, by repeated squaring. -/
def powerFrom : Nat → Nat → Float × Float → Float × Float → Float × Float
  | 0, _, result, _ => result
  | fuel + 1, n, result, a =>
    if n = 0 then result
    else powerFrom fuel (n / 2) (if n % 2 = 1 then times result a else result) (times a a)

/-- The power of a complex number with a natural exponent. -/
def powerOf (a : Float × Float) (n : Nat) : Float × Float := powerFrom (n.log2 + 1) n (1.0, 0.0) a

/-- The power of a complex number with any exponent, if it has one: by its length and angle. -/
def powerAt? (a b : Float × Float) : Option (Float × Float) :=
  if b.1 == 0 && b.2 == 0 then some (1.0, 0.0)
  else if a.1 == 0 && a.2 == 0 then if b.2 != 0 || b.1 < 0 then none else some (0.0, 0.0)
  else
    let size := Decimal.hypotenuse a.1 a.2
    let angle := Float.atan2 a.2 a.1
    let length := size.pow b.1
    let phase := angle * b.1
    let (length, phase) :=
      if b.2 == 0 then (length, phase)
      else (length / (angle * b.2).exp, phase + b.2 * size.log)
    some (length * phase.cos, length * phase.sin)

/-- The power of a complex number; exponents that are small integers are worked out by products. -/
def powComplex (a b : Float × Float) : Except Fault Number := do
  let result :=
    if b.2 == 0 && b.1 == b.1.floor && b.1.abs ≤ 100.0 then
      let n := ((Decimal.truncate? b.1).getD 0)
      if 0 < n then some (powerOf a n.toNat) else over? (1.0, 0.0) (powerOf a n.natAbs)
    else powerAt? a b
  match result with
  | none => dividesByZero "0.0 to a negative or complex power"
  | some (re, im) =>
    if re.isInf || im.isInf then .error ⟨.overflow, "complex exponentiation"⟩
    else return .complex re im

/-- The power of floats. -/
def powFloat (x y : Float) : Except Fault Number := do
  if y == 0 then return .float 1.0
  if x.isNaN then return .float x
  if y.isNaN then return .float (if x == 1.0 then 1.0 else y)
  if y.isInf then
    let size := x.abs
    return .float (
      if size == 1.0 then 1.0
      else if decide (y > 0) == decide (size > 1.0) then y.abs
      else 0.0)
  let odd := isOdd y
  if x.isInf then
    return .float (
      if y > 0 then if odd then x else x.abs
      else if odd then withSign 0.0 x else 0.0)
  if x == 0 then
    if y < 0 then dividesByZero "0.0 cannot be raised to a negative power"
    return .float (if odd then x else 0.0)
  -- a root of a negative number is complex
  if x < 0 && y != y.floor then return ← powComplex (x, 0.0) (y, 0.0)
  let z := x.abs.pow y
  if z.isInf then .error ⟨.overflow, "(34, 'Numerical result out of range')"⟩
  return .float (if x < 0 && odd then -z else z)

/-! ### Operators -/

/-- An operator between integers. -/
def applyIntegers (op : BinaryOp) (m n : Int) : Except Fault Number := do
  match op with
  | .add => return .int (m + n)
  | .sub => return .int (m - n)
  | .mul => return .int (m * n)
  | .div =>
    if n = 0 then dividesByZero "division by zero"
    -- rounded once from the exact quotient, so the integers may be out of the range of floats
    let x := Decimal.ofRatio m.natAbs n.natAbs
    if x.isInf then .error ⟨.overflow, "integer division result too large for a float"⟩
    return .float (if decide (m < 0) != decide (n < 0) then -x else x)
  | .floorDiv =>
    if n = 0 then dividesByZero "integer division or modulo by zero"
    return .int (m.fdiv n)
  | .mod =>
    if n = 0 then dividesByZero "integer modulo by zero"
    return .int (m.fmod n)
  | .pow =>
    if 0 ≤ n then powInt m n.toNat
    else powFloat (← nearest m) (← nearest n)

/-- An operator between floats. -/
def applyFloats (op : BinaryOp) (x y : Float) : Except Fault Number := do
  match op with
  | .add => return .float (x + y)
  | .sub => return .float (x - y)
  | .mul => return .float (x * y)
  | .div =>
    if y == 0 then dividesByZero "float division by zero"
    return .float (x / y)
  | .floorDiv =>
    if y == 0 then dividesByZero "float floor division by zero"
    return .float (divMod x y).1
  | .mod =>
    if y == 0 then dividesByZero "float modulo"
    return .float (divMod x y).2
  | .pow => powFloat x y

/-- An operator between complex numbers, if it applies to them. -/
def complexResult? (op : BinaryOp) (a b : Float × Float) : Option (Except Fault Number) :=
  match op with
  | .add => some (.ok (.complex (a.1 + b.1) (a.2 + b.2)))
  | .sub => some (.ok (.complex (a.1 - b.1) (a.2 - b.2)))
  | .mul =>
    let (re, im) := times a b
    some (.ok (.complex re im))
  | .div =>
    match over? a b with
    | some (re, im) => some (.ok (.complex re im))
    | none => some (dividesByZero "complex division by zero")
  | .pow => some (powComplex a b)
  | _ => none

/-- A number as a float; its real part if it is complex. -/
def toFloat : Number → Except Fault Float
  | .int n => nearest n
  | .float x => .ok x
  | .complex re _ => .ok re

/-- A number as a complex one. -/
def toComplex : Number → Except Fault (Float × Float)
  | .complex re im => .ok (re, im)
  | a => return (← a.toFloat, 0.0)

/-- An operator between two numbers, if it applies to them. -/
def combine? (op : BinaryOp) (a b : Number) : Option (Except Fault Number) :=
  match a, b with
  | .int m, .int n => some (applyIntegers op m n)
  | .complex _ _, _ => complex
  | _, .complex _ _ => complex
  | _, _ => some do applyFloats op (← a.toFloat) (← b.toFloat)
where
  /-- The operator between complex numbers. -/
  complex : Option (Except Fault Number) :=
    match a.toComplex, b.toComplex with
    | .ok a, .ok b => complexResult? op a b
    | .error fault, _ => some (.error fault)
    | _, .error fault => some (.error fault)

/-- The number with the opposite sign. -/
def negate : Number → Number
  | .int n => .int (-n)
  | .float x => .float (-x)
  | .complex re im => .complex (-re) (-im)

/-! ### Comparison -/

/-- The order of an integer and a float; none if it is not a number. -/
def compareIntFloat (n : Int) (x : Float) : Option Ordering :=
  match Decimal.parts x with
  | .nan => none
  | .infinite negative => some (if negative then .gt else .lt)
  | .finite negative m q _ =>
    let signed : Int := if negative then -(m : Int) else m
    some (compare (n * Decimal.twoTo (-q).toNat) (signed * Decimal.twoTo q.toNat))

/-- The order of two floats; none if one of them is not a number. -/
def compareFloats (x y : Float) : Option Ordering :=
  if x < y then some .lt else if x == y then some .eq else if x > y then some .gt else none

/-- The order of two numbers, if neither is complex; it is none if one of them is not a number. -/
def compare? (a b : Number) : Option (Option Ordering) :=
  match a, b with
  | .int m, .int n => some (some (compare m n))
  | .int n, .float x => some (compareIntFloat n x)
  | .float x, .int n => some ((compareIntFloat n x).map Ordering.swap)
  | .float x, .float y => some (compareFloats x y)
  | _, _ => none

/-- Two numbers are equal. -/
def equals (a b : Number) : Bool :=
  match a, b with
  | .complex re im, .complex re' im' => re == re' && im == im'
  | .complex re im, b => im == 0 && sameReal re b
  | a, .complex re im => im == 0 && sameReal re a
  | a, b => (compare? a b).join == some .eq
where
  /-- A real part is equal to a number that is not complex. -/
  sameReal (re : Float) (b : Number) : Bool := (compare? (.float re) b).join == some .eq

/-- The number is not zero. -/
def isTrue : Number → Bool
  | .int n => n != 0
  | .float x => x != 0
  | .complex re im => re != 0 || im != 0

end Number
end ApiScribe.Template
