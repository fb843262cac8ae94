import ApiScribe.Text.Split

/-!
# Sets of code points

A character class of the Unicode standard is a list of inclusive ranges of code points.  It is
written as text, hexadecimal and blank-separated (`41-5a 5f 61-7a`), and read once.
-/

namespace ApiScribe.Text

/-- The number written by hexadecimal digits; any other character counts as zero. -/
def hexValue (digits : List Char) : Nat :=
  digits.foldl (fun n c =>
    16 * n + (if c.isDigit then c.toNat - 48
      else if 'a' ≤ c ∧ c ≤ 'f' then c.toNat - 87
      else if 'A' ≤ c ∧ c ≤ 'F' then c.toNat - 55 else 0)) 0

/-- A set of code points, as inclusive ranges. -/
structure CodePoints where
  ranges : List (Nat × Nat)
  deriving Inhabited

namespace CodePoints

/-- The range written `41-5a`, or `5f` for a single code point. -/
def readRange (piece : List Char) : Nat × Nat :=
  match splitOn '-' piece with
  | [low, high] => (hexValue low, hexValue high)
  | _ => (hexValue piece, hexValue piece)

/-- The set written as lines of blank-separated ranges. -/
def read (lines : List String) : CodePoints :=
  ⟨lines.flatMap fun line => (splitOn ' ' line.toList).map readRange⟩

/-- Membership of a character. -/
def contains (s : CodePoints) (c : Char) : Bool :=
  s.ranges.any fun (low, high) => low ≤ c.toNat && c.toNat ≤ high

end CodePoints
end ApiScribe.Text
