/-!
# The shortest decimal of a binary fraction

A finite float is `m · 2^q`.  Among the decimals that read back as it, `shortest` takes one with
the fewest digits, and of those the nearest.  For each number of digits only the two neighbours on
the decimal grid can read back, so it tests these, in exact arithmetic.
-/

namespace ApiScribe.Decimal

/-- A decimal `0.d₁d₂… · 10^point`, its digits as one number without trailing zeros. -/
structure Digits where
  digits : Nat
  point : Int
  deriving DecidableEq, Repr

/-- The number of decimal digits of a number; one for zero. -/
def digitCount (n : Nat) : Nat := (Nat.toDigits 10 n).length

/-- The power of two of an exponent. -/
def twoTo (n : Nat) : Nat := Nat.pow 2 n

/-- The power of ten of an exponent. -/
def tenTo (n : Nat) : Nat := Nat.pow 10 n

/-- A positive number `num / den` given exactly, with the interval of the numbers that round to
it. -/
structure Interval where
  num : Nat
  low : Nat
  high : Nat
  den : Nat
  closed : Bool

/-- The interval of `m · 2^q`; below a power of two the next float is nearer. -/
def Interval.of (m : Nat) (q : Int) (narrowBelow : Bool) (closed : Bool) : Interval :=
  let up := twoTo q.toNat
  let den := 4 * twoTo (-q).toNat
  ⟨4 * m * up, (4 * m - if narrowBelow then 1 else 2) * up, (4 * m + 2) * up, den, closed⟩

/-- The fraction `n · 10^e` lies in the interval. -/
def Interval.holds (i : Interval) (n : Nat) (e : Int) : Bool :=
  let scaled := n * tenTo e.toNat * i.den
  let unit := tenTo (-e).toNat
  if i.closed then i.low * unit ≤ scaled && scaled ≤ i.high * unit
  else i.low * unit < scaled && scaled < i.high * unit

/-- The decimal exponent `k` with `10^(k-1) ≤ num / den < 10^k`. -/
def magnitude (num den : Nat) : Int :=
  let guess : Int := (digitCount num : Int) - digitCount den
  let atLeast (e : Int) : Bool := den * tenTo e.toNat ≤ num * tenTo (-e).toNat
  if atLeast guess then guess + 1 else guess

/-- The best decimal with `count` digits, if one reads back. -/
def Interval.onGrid? (i : Interval) (magnitude : Int) (count : Nat) : Option Digits :=
  let e := magnitude - count
  let num := i.num * tenTo (-e).toNat
  let den := i.den * tenTo e.toNat
  let below := num / den
  let pick (n : Nat) : Digits :=
    -- a carry to one more digit moves the point
    ⟨n, magnitude + if digitCount n > count then 1 else 0⟩
  match i.holds below e && below != 0, i.holds (below + 1) e with
  | true, true => if 2 * (num % den) ≤ den then some (pick below) else some (pick (below + 1))
  | true, false => some (pick below)
  | false, true => some (pick (below + 1))
  | false, false => none

/-- Drops the trailing zeros of a number. -/
def dropZeros (fuel n : Nat) : Nat :=
  match fuel with
  | 0 => n
  | fuel + 1 => if n != 0 && n % 10 == 0 then dropZeros fuel (n / 10) else n

/-- The shortest decimal of the positive number `m · 2^q`. -/
def shortest (m : Nat) (q : Int) (narrowBelow : Bool) : Digits :=
  let i := Interval.of m q narrowBelow (m % 2 == 0)
  let magnitude := magnitude i.num i.den
  match (List.range 17).findSome? fun n => i.onGrid? magnitude (n + 1) with
  | some d => ⟨dropZeros 20 d.digits, d.point⟩
  | none => ⟨0, 0⟩

/-- A float apart: negative, infinite or not a number, or a fraction `m · 2^q`. -/
inductive Parts where
  | nan
  | infinite (negative : Bool)
  | finite (negative : Bool) (m : Nat) (q : Int) (narrowBelow : Bool)
  deriving DecidableEq, Repr

/-- The parts of a float, from its bits. -/
def parts (x : Float) : Parts :=
  let bits := x.toBits.toNat
  let negative := bits / twoTo 63 == 1
  let biased : Nat := bits / twoTo 52 % 2048
  let fraction : Nat := bits % twoTo 52
  if biased == 2047 then if fraction == 0 then .infinite negative else .nan
  else if biased == 0 then .finite negative fraction (-1074) false
  else .finite negative (twoTo 52 + fraction) ((biased : Int) - 1075) (fraction == 0 && biased > 1)

/-- How a decimal is written out. -/
structure Layout where
  /-- A decimal point further left than this takes an exponent. -/
  least : Int
  /-- A decimal point further right than this takes an exponent. -/
  most : Int

/-- Positional between `0.0001` and sixteen digits, with at least one digit after the point. -/
def plain : Layout := ⟨-3, 16⟩

/-- A decimal in digits, `point` digits of them before the decimal point. -/
def Digits.write (d : Digits) (layout : Layout) : List Char :=
  let ds := Nat.toDigits 10 d.digits
  if layout.least ≤ d.point ∧ d.point ≤ layout.most then
    if d.point ≤ 0 then '0' :: '.' :: (List.replicate (-d.point).toNat '0' ++ ds)
    else
      let n := d.point.toNat
      if ds.length ≤ n then ds ++ List.replicate (n - ds.length) '0' ++ ['.', '0']
      else ds.take n ++ '.' :: ds.drop n
  else
    let e := d.point - 1
    let exponent := Nat.toDigits 10 e.natAbs
    let mantissa := match ds with
      | [] => []
      | [d] => [d]
      | d :: more => d :: '.' :: more
    mantissa ++ 'e' :: (if e < 0 then '-' else '+') ::
      (if exponent.length < 2 then '0' :: exponent else exponent)

/-- The text of a float. -/
def floatText (x : Float) : List Char :=
  match parts x with
  | .nan => "nan".toList
  | .infinite negative => if negative then "-inf".toList else "inf".toList
  | .finite negative m q narrow =>
    let body := if m = 0 then "0.0".toList else (shortest m q narrow).write plain
    if negative then '-' :: body else body

/-- The float nearest to `digits · 10^exponent`; far out of range it is infinite or zero. -/
def nearestFloat (digits : Nat) (exponent : Int) : Float :=
  let magnitude := exponent + digitCount digits
  if digits = 0 then 0
  else if magnitude > 400 then (1.0 : Float) / 0.0
  else if magnitude < -400 then 0
  else Float.ofScientific digits (exponent < 0) exponent.natAbs

end ApiScribe.Decimal
