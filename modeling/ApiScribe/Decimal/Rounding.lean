import ApiScribe.Decimal.Shortest

/-!
# Rounding exact numbers

A computation on floats is done on exact fractions and rounded once, to the nearest float or to the
nearest decimal; a tie goes to the even neighbour.
-/

namespace ApiScribe.Decimal

/-- The quotient of two numbers, rounded; a tie goes to the even neighbour. -/
def roundDiv (num den : Nat) : Nat :=
  let q := num / den
  let twice := 2 * (num % den)
  if twice < den then q else if den < twice then q + 1 else q + q % 2

/-- The exponent of the least positive float. -/
def leastExponent : Int := -1074

/-- The float nearest to `num / den`; a number out of range is infinite. -/
def ofRatio (num den : Nat) : Float :=
  if num = 0 then 0
  else
    -- the exponent of the last bit that a float of this size keeps, or one less
    let guess : Int := (num.log2 : Int) - den.log2 - 53
    let rounded (e : Int) : Nat := roundDiv (num * twoTo (-e).toNat) (den * twoTo e.toNat)
    let e := max guess leastExponent
    let e := if rounded e < twoTo 53 then e else e + 1
    if e > 1000 then (1.0 : Float) / 0.0 else (Float.ofNat (rounded e)).scaleB e

/-- The float nearest to an integer; infinite if it is out of range. -/
def ofInt (n : Int) : Float := if n < 0 then -(ofRatio n.natAbs 1) else ofRatio n.natAbs 1

/-- The finite float `± m · 2^q` as a fraction: its sign, numerator and denominator. -/
def fraction? (x : Float) : Option (Bool × Nat × Nat) :=
  match parts x with
  | .finite negative m q _ => some (negative, m * twoTo q.toNat, twoTo (-q).toNat)
  | _ => none

/-- A float rounded to a number of decimals; fewer than none round to tens, hundreds and so on. -/
def roundFloat (x : Float) (decimals : Int) : Float :=
  match fraction? x with
  | none => x
  | some (negative, num, den) =>
    if decimals > 340 then x
    else if decimals < -340 then if negative then -0.0 else 0.0
    else
      let r := roundDiv (num * tenTo decimals.toNat) (den * tenTo (-decimals).toNat)
      let y := nearestFloat r (-decimals)
      if negative then -y else y

/-- An integer rounded to a multiple of `10^places`. -/
def roundInt (n : Int) (places : Nat) : Int :=
  let r := roundDiv n.natAbs (tenTo places) * tenTo places
  if n < 0 then -(r : Int) else r

/-- The whole part of a finite float. -/
def truncate? (x : Float) : Option Int :=
  (fraction? x).map fun (negative, num, den) =>
    let n := num / den
    if negative then -(n : Int) else n

/-- What is left of a float when its whole multiples of another one are taken away; it has the sign
of the first. -/
def remainder (x y : Float) : Float :=
  match fraction? x, fraction? y with
  | some (negative, a, b), some (_, c, d) =>
    if c = 0 then 0.0 / 0.0
    else
      let r := ofRatio (a * d % (c * b)) (b * d)
      if negative then -r else r
  | some _, none => if y.isNaN then y else x
  | none, _ => 0.0 / 0.0

/-- The greatest number whose square is not greater than `n`, found bit by bit from bit `k` on. -/
def rootFrom (n : Nat) : Nat → Nat → Nat
  | 0, root => root
  | k + 1, root =>
    let next := root + twoTo k
    rootFrom n k (if next * next ≤ n then next else root)

/-- The whole part of a square root. -/
def root (n : Nat) : Nat := rootFrom n (n.log2 / 2 + 1) 0

/-- The float nearest to the length of the hypotenuse of a right triangle. -/
def hypotenuse (x y : Float) : Float :=
  match fraction? x, fraction? y with
  | some (_, a, b), some (_, c, d) =>
    if a = 0 then y.abs
    else if c = 0 then x.abs
    else
      let den := b * d
      let square := (a * d * (a * d) + c * b * (c * b)) * twoTo 256
      let r := root square
      -- one more bit tells whether the root is exact
      ofRatio (2 * r + if r * r = square then 0 else 1) (2 * den * twoTo 128)
  | _, _ => if x.isInf || y.isInf then 1.0 / 0.0 else 0.0 / 0.0

end ApiScribe.Decimal
