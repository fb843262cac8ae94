import ApiScribe.Decimal.Shortest
import ApiScribe.Text.Blank
import ApiScribe.Text.CodePoints

/-!
# Numbers in text

A number may stand between blanks, has an optional sign, may group its digits by single
underscores, and may use the decimal digits of any script (Unicode 14).
-/

namespace ApiScribe.Text

/-- The zeros of the decimal digits above ASCII; the other nine follow each of them. -/
def decimalZeros : List Nat :=
  (splitOn ' ' ("660 6f0 7c0 966 9e6 a66 ae6 b66 be6 c66 ce6 d66 de6 e50 ed0 f20 1040 1090 17e0 " ++
    "1810 1946 19d0 1a80 1a90 1b50 1bb0 1c40 1c50 a620 a8d0 a900 a9d0 a9f0 aa50 abf0 ff10 " ++
    "104a0 10d30 " ++
    "11066 110f0 11136 111d0 112f0 11450 114d0 11650 116c0 11730 118e0 11950 11c50 11d50 11da0 " ++
    "16a60 16ac0 16b50 1d7ce 1d7d8 1d7e2 1d7ec 1d7f6 1e140 1e2f0 1e950 1fbf0").toList).map hexValue

/-- The value of a decimal digit of any script. -/
def decimalDigit? (c : Char) : Option Nat :=
  if c.toNat < 0x80 then if c.isDigit then some (c.toNat - 48) else none
  else (decimalZeros.find? fun z => z ≤ c.toNat && c.toNat < z + 10).map (c.toNat - ·)

/-- The value of a digit; letters of either case are digits from ten on. -/
def digit? (c : Char) : Option Nat :=
  if 'a' ≤ c ∧ c ≤ 'z' then some (c.toNat - 87)
  else if 'A' ≤ c ∧ c ≤ 'Z' then some (c.toNat - 55)
  else decimalDigit? c

/-- A negative sign, and the text after an optional sign. -/
def sign : List Char → Bool × List Char
  | '-' :: cs => (true, cs)
  | '+' :: cs => (false, cs)
  | cs => (false, cs)

/-- The values of digits of a base, grouped by single underscores. -/
def digits? (base : Nat) (cs : List Char) : Option (List Nat) :=
  let groups := splitOn '_' cs
  if groups.any List.isEmpty then none
  else (groups.flatMap id).mapM fun c => (digit? c).filter (· < base)

/-- The number with the given digits. -/
def ofDigits (base : Nat) (ds : List Nat) : Nat := ds.foldl (fun n d => base * n + d) 0

/-- Why a text is no integer. -/
inductive IntegerFault where
  | malformed
  /-- A decimal integer of more digits than are converted. -/
  | tooLong (digits : Nat)
  deriving DecidableEq, Repr

/-- The most digits of a decimal integer that are converted. -/
def digitLimit : Nat := 4300

/-- The letter after a zero that announces a base. -/
def baseLetter? (base : Nat) : Option Char :=
  match base with
  | 2 => some 'b'
  | 8 => some 'o'
  | 16 => some 'x'
  | _ => none

/-- The digits after an announcement of their base, of which an underscore may be a part. -/
def dropBase (base : Nat) (cs : List Char) : List Char :=
  match cs, baseLetter? base with
  | '0' :: c :: rest, some letter =>
    if c.toLower == letter then if rest.head? == some '_' then rest.drop 1 else rest else cs
  | _, _ => cs

/-- The integer that a text writes in a base. -/
def readInteger (base : Nat) (cs : List Char) : Except IntegerFault Int :=
  let (negative, body) := sign (trimBlanks cs)
  match digits? base (dropBase base body) with
  | none => .error .malformed
  | some ds =>
    if base = 10 ∧ digitLimit < ds.length then .error (.tooLong ds.length)
    else .ok (if negative then -(ofDigits base ds : Int) else ofDigits base ds)

/-- Decimal digits, possibly none, grouped by single underscores. -/
def digitsOrNone? (cs : List Char) : Option (List Nat) :=
  if cs.isEmpty then some [] else (splitOn '_' cs).foldr (fun group acc => do
    let acc ← acc
    if group.isEmpty then none else return (← group.mapM decimalDigit?) ++ acc) (some [])

/-- The parts of a decimal without its sign: the digits before and after the point, and the
exponent. -/
def decimalParts? (cs : List Char) : Option (List Nat × List Nat × Int) := do
  let mantissa := cs.takeWhile fun c => c != 'e' && c != 'E'
  let exponent ← match cs.drop mantissa.length with
    | [] => some 0
    | _ :: e =>
      let (negative, e) := sign e
      let n := ofDigits 10 (← digits? 10 e)
      some (if negative then -(n : Int) else n)
  let whole := mantissa.takeWhile (· != '.')
  let fraction := (mantissa.drop whole.length).drop 1
  let whole ← digitsOrNone? whole
  let fraction ← digitsOrNone? fraction
  if whole.isEmpty && fraction.isEmpty then none else some (whole, fraction, exponent)

/-- The float that a text writes. -/
def readFloat? (cs : List Char) : Option Float :=
  let (negative, body) := sign (trimBlanks cs)
  let signed (x : Float) : Float := if negative then -x else x
  let word := body.map Char.toLower
  if word = "inf".toList ∨ word = "infinity".toList then some (signed (1.0 / 0.0))
  else if word = "nan".toList then some (0.0 / 0.0)
  else do
    let (whole, fraction, exponent) ← decimalParts? body
    return signed (Decimal.nearestFloat (ofDigits 10 (whole ++ fraction))
      (exponent - fraction.length))

end ApiScribe.Text
