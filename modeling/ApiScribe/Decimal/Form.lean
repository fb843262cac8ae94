import ApiScribe.Decimal.Rounding

/-!
# Forms of a fraction

A fraction is written with a fixed number of decimals, or with a fixed number of digits and an
exponent.  The general form takes the first unless the number is very large or very small.
All of them round to the nearest decimal, a tie to the even neighbour.
-/

namespace ApiScribe.Decimal

/-- A form. -/
inductive Form where
  /-- Digits before the point, and as many decimals as the precision says. -/
  | fixed
  /-- One digit before the point, as many after it as the precision says, and an exponent. -/
  | scientific
  /-- As many digits as the precision says. -/
  | general
  deriving DecidableEq, Repr

/-- Digits with a point before the last `places` of them; `pointed` keeps the point even if nothing
follows it. -/
def withPoint (digits : List Char) (places : Nat) (pointed : Bool) : List Char :=
  let digits := List.replicate (places + 1 - digits.length) '0' ++ digits
  let whole := digits.take (digits.length - places)
  if places = 0 then if pointed then whole ++ ['.'] else whole
  else whole ++ '.' :: digits.drop whole.length

/-- A fraction with so many decimals. -/
def fixedText (num den places : Nat) (pointed : Bool) : List Char :=
  withPoint (Nat.toDigits 10 (roundDiv (num * tenTo places) den)) places pointed

/-- A fraction rounded to `places + 1` digits: the digits, and the exponent of the first one. -/
def significant (num den places : Nat) : Nat × Int :=
  if num = 0 then (0, 0)
  else
    let exponent := magnitude num den - 1
    let shift := (places : Int) - exponent
    let digits := roundDiv (num * tenTo shift.toNat) (den * tenTo (-shift).toNat)
    if tenTo (places + 1) ≤ digits then (digits / 10, exponent + 1) else (digits, exponent)

/-- An exponent of at least two digits, with its sign. -/
def exponentText (e : Int) : List Char :=
  let digits := Nat.toDigits 10 e.natAbs
  (if e < 0 then '-' else '+') :: (if digits.length < 2 then '0' :: digits else digits)

/-- A fraction with so many digits after the first one, and an exponent. -/
def scientificText (num den places : Nat) (pointed : Bool) : List Char :=
  let (digits, exponent) := significant num den places
  withPoint (Nat.toDigits 10 digits) places pointed ++ 'e' :: exponentText exponent

/-- A text with a point without the zeros at its end, and without the point if nothing follows. -/
def dropFinalZeros (cs : List Char) : List Char :=
  if cs.contains '.' then
    match cs.reverse.dropWhile (· == '0') with
    | '.' :: rest => rest.reverse
    | rest => rest.reverse
  else cs

/-- A fraction with so many digits; `complete` keeps the zeros at the end. -/
def generalText (num den count : Nat) (complete : Bool) : List Char :=
  let count := max 1 count
  let (digits, exponent) := significant num den (count - 1)
  if exponent < -4 ∨ (count : Int) ≤ exponent then
    let mantissa := withPoint (Nat.toDigits 10 digits) (count - 1) complete
    (if complete then mantissa else dropFinalZeros mantissa) ++ 'e' :: exponentText exponent
  else
    let cs := fixedText num den ((count : Int) - 1 - exponent).toNat complete
    if complete then cs else dropFinalZeros cs

/-- The size of a float in a form; `full` keeps a point and zeros that the form would
leave out. -/
def Form.write (form : Form) (precision : Nat) (full : Bool) (x : Float) : List Char :=
  match fraction? x with
  | none => if x.isNaN then ['n', 'a', 'n'] else ['i', 'n', 'f']
  | some (_, num, den) =>
    match form with
    | .fixed => fixedText num den precision full
    | .scientific => scientificText num den precision full
    | .general => generalText num den precision full

/-- A float in a form. -/
def Form.text (form : Form) (precision : Nat) (full : Bool) (x : Float) : List Char :=
  let cs := form.write precision full x
  if !x.isNaN && x.toBits ≥ (-0.0 : Float).toBits then '-' :: cs else cs

end ApiScribe.Decimal
