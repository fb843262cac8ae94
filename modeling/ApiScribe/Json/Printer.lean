import ApiScribe.Json.Basic

/-!
# Writing JSON

The text is ASCII: every other character is written as `\uXXXX`, one outside the basic plane as a
surrogate pair.  Without an indent the text is one line; with one, each item stands on a line of
its own, also for an indent of zero.  An empty array or object is written without a break.
-/

namespace ApiScribe.Json

/-- A sixteen-bit unit by number. -/
def unitEscape (n : Nat) : List Char := '\\' :: 'u' :: Text.hexDigits 4 n

/-- One character inside a string. -/
def escapeChar (c : Char) : List Char :=
  if c = '"' then ['\\', '"']
  else if c = '\\' then ['\\', '\\']
  else if c = '\n' then ['\\', 'n']
  else if c = '\r' then ['\\', 'r']
  else if c = '\t' then ['\\', 't']
  else if c = '\x0c' then ['\\', 'f']
  else if c = '\x08' then ['\\', 'b']
  else if 0x20 ≤ c.toNat ∧ c.toNat ≤ 0x7E then [c]
  else if c.toNat < 0x10000 then unitEscape c.toNat
  else
    let n := c.toNat - 0x10000
    unitEscape (0xD800 + n / 0x400) ++ unitEscape (0xDC00 + n % 0x400)

/-- A string in quotes. -/
def stringText (cs : List Char) : List Char := '"' :: (cs.flatMap escapeChar ++ ['"'])

/-- A break before an item at the given depth; nothing without an indent. -/
def lineBreak (indent : Option Nat) (depth : Nat) : List Char :=
  match indent with
  | none => []
  | some width => '\n' :: List.replicate (width * depth) ' '

/-- What separates two items. -/
def separator (indent : Option Nat) (depth : Nat) : List Char :=
  match indent with
  | none => [',', ' ']
  | some _ => ',' :: lineBreak indent depth

/-- Code points as a JSON string. -/
def unpairedText (points : List Nat) : List Char :=
  '"' :: (points.flatMap (fun n => if isScalar n then escapeChar (Char.ofNat n) else unitEscape n)
    ++ ['"'])

/-- A name as a JSON string. -/
def Name.written : Name → List Char
  | .text s => stringText s.toList
  | .unpaired points => unpairedText points

mutual

/-- The text of a value that stands at the given depth. -/
def textAt (indent : Option Nat) (depth : Nat) : Json → List Char
  | .null => "null".toList
  | .bool b => if b then "true".toList else "false".toList
  | .int n => intText n
  | .float x => Decimal.floatText x
  | .string s => stringText s.toList
  | .unpaired points => unpairedText points
  | .array [] => ['[', ']']
  | .array (v :: vs) =>
    '[' :: (lineBreak indent (depth + 1) ++ textAt indent (depth + 1) v ++
      moreItems indent (depth + 1) vs ++ lineBreak indent depth ++ [']'])
  | .object [] => ['{', '}']
  | .object ((name, v) :: ms) =>
    '{' :: (lineBreak indent (depth + 1) ++ name.written ++ ':' :: ' ' ::
      (textAt indent (depth + 1) v ++ moreMembers indent (depth + 1) ms ++
        lineBreak indent depth ++ ['}']))

/-- The items after the first of an array, each with its separator before it. -/
def moreItems (indent : Option Nat) (depth : Nat) : List Json → List Char
  | [] => []
  | v :: vs => separator indent depth ++ textAt indent depth v ++ moreItems indent depth vs

/-- The members after the first of an object, each with its separator before it. -/
def moreMembers (indent : Option Nat) (depth : Nat) : List (Name × Json) → List Char
  | [] => []
  | (name, v) :: ms =>
    separator indent depth ++ name.written ++ ':' :: ' ' ::
      (textAt indent depth v ++ moreMembers indent depth ms)

end

/-- The text of a value. -/
def text (indent : Option Nat) (v : Json) : List Char := textAt indent 0 v

end ApiScribe.Json
