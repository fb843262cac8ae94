import ApiScribe.Text.CharacterName
import ApiScribe.Text.Number
import ApiScribe.Text.Quoted

/-!
# Literals

Numbers and texts as they are written inside of tags.  Every function takes the text from the
literal on and gives what follows it.
-/

namespace ApiScribe.Template

open Text

/-! ### Numbers -/

/-- Digits with single underscores between them, at least one digit: as written and the rest. -/
def digitRun (isDigit : Char → Bool) : List Char → List Char × List Char
  | [] => ([], [])
  | c :: cs =>
    if isDigit c then
      let (run, rest) := digitRun isDigit cs
      (c :: run, rest)
    else if c == '_' then
      match cs with
      | d :: _ =>
        if isDigit d then
          let (run, rest) := digitRun isDigit cs
          (c :: run, rest)
        else ([], c :: cs)
      | [] => ([], c :: cs)
    else ([], c :: cs)

/-- Decimal digits that start with a digit. -/
def decimalRun (cs : List Char) : List Char × List Char :=
  if cs.head?.any Char.isDigit then digitRun Char.isDigit cs else ([], cs)

/-- The digits after a point. -/
def fractionRun : List Char → List Char × List Char
  | '.' :: cs => decimalRun cs
  | cs => ([], cs)

/-- The text without its underscores. -/
def withoutGaps (cs : List Char) : List Char := cs.filter (· != '_')

/-- The exponent of a float. -/
def exponent? (cs : List Char) : Option (Int × List Char) :=
  match cs with
  | e :: rest =>
    if e == 'e' || e == 'E' then
      let (negative, digits) := sign rest
      let (run, rest) := decimalRun digits
      if run.isEmpty then none
      else
        let n := ofDigits 10 (run.filterMap decimalDigit?)
        some (if negative then -(n : Int) else n, rest)
    else none
  | [] => none

/-- A float: digits with a fraction, an exponent or both. -/
def float? (cs : List Char) : Option (Float × List Char) :=
  let (whole, rest) := decimalRun cs
  if whole.isEmpty then none
  else
    let (fraction, afterFraction) := fractionRun rest
    let hasFraction := !fraction.isEmpty
    let rest := if hasFraction then afterFraction else rest
    let value (fraction : List Char) (e : Int) : Float :=
      let digits := (withoutGaps (whole ++ fraction)).filterMap decimalDigit?
      Decimal.nearestFloat (ofDigits 10 digits) (e - (withoutGaps fraction).length)
    match exponent? rest with
    | some (e, rest) => some (value fraction e, rest)
    | none => if hasFraction then some (value fraction 0, rest) else none

/-- An integer in a base after its mark. -/
def integerIn? (base : Nat) (cs : List Char) : Option (Nat × List Char) :=
  let (run, rest) := digitRun (fun c => (digit? c).any (· < base)) cs
  if run.isEmpty then none
  else some (ofDigits base (run.filterMap fun c => (digit? c).filter (· < base)), rest)

/-- An integer after the mark of its base. -/
def markedInteger? (mark : Char) (cs : List Char) : Option (Nat × List Char) :=
  match mark.toLower with
  | 'b' => integerIn? 2 cs
  | 'o' => integerIn? 8 cs
  | 'x' => integerIn? 16 cs
  | _ => none

/-- An integer: binary, octal, hexadecimal, or decimal without leading zeros. -/
def integer? (cs : List Char) : Option (Nat × List Char) :=
  match cs with
  | '0' :: mark :: rest =>
    match markedInteger? mark rest with
    | some r => some r
    | none => some (0, (digitRun (· == '0') cs).2)
  | ['0'] => some (0, [])
  | c :: _ => if c.isDigit then integerIn? 10 cs else none
  | [] => none

/-! ### Texts -/

/-- The body of a text in quotes and what follows the closing quote; a backslash protects any
character. -/
def quotedBody (quote : Char) : List Char → Option (List Char × List Char)
  | [] => none
  | '\\' :: c :: cs => (quotedBody quote cs).map fun (body, rest) => ('\\' :: c :: body, rest)
  | c :: cs =>
    if c == quote then some ([], cs)
    else if c == '\\' then none
    else (quotedBody quote cs).map fun (body, rest) => (c :: body, rest)

/-- What a backslash and a character stand for. -/
def shortEscape? (c : Char) : Option Char :=
  match c with
  | '\\' => some '\\'
  | '\'' => some '\''
  | '"' => some '"'
  | 'a' => some '\x07'
  | 'b' => some '\x08'
  | 'f' => some '\x0c'
  | 'n' => some '\n'
  | 'r' => some '\r'
  | 't' => some '\t'
  | 'v' => some '\x0b'
  | _ => none

/-- The number of hexadecimal digits after a letter, and the complaint when they are missing. -/
def codeEscape? (c : Char) : Option (Nat × String) :=
  match c with
  | 'x' => some (2, "truncated \\xXX escape")
  | 'u' => some (4, "truncated \\uXXXX escape")
  | 'U' => some (8, "truncated \\UXXXXXXXX escape")
  | _ => none

/-- A hexadecimal digit. -/
def isHexDigit (c : Char) : Bool := c.toNat < 0x80 && (digit? c).any (· < 16)

/-- The code point that a wide escape spells. -/
def wideEscape? : List Char → Option (Nat × List Char)
  | '\\' :: 'u' :: cs =>
    let digits := cs.take 4
    if digits.length = 4 ∧ digits.all isHexDigit then some (hexValue digits, cs.drop 4) else none
  | _ => none

/-- The character of a code point.  No text holds a surrogate: two escapes that spell the halves of
a pair give its character, and a lone one is replaced. -/
def pointChar (n : Nat) (rest : List Char) : Char × List Char :=
  if 0xD800 ≤ n ∧ n ≤ 0xDBFF then
    match wideEscape? rest with
    | some (low, after) =>
      if 0xDC00 ≤ low ∧ low ≤ 0xDFFF then
        (Char.ofNat (0x10000 + (n - 0xD800) * 0x400 + (low - 0xDC00)), after)
      else ('\uFFFD', rest)
    | none => ('\uFFFD', rest)
  else if 0xDC00 ≤ n ∧ n ≤ 0xDFFF then ('\uFFFD', rest)
  else (Char.ofNat n, rest)

/-- The name in braces at the start of a text. -/
def bracedName? : List Char → Option (List Char)
  | '\x7b' :: cs =>
    let name := cs.takeWhile (· != '\x7d')
    if name.isEmpty ∨ name.length = cs.length then none else some name
  | _ => none

/-- The text that a quoted body stands for, or what is wrong with an escape.  A backslash before
any other character stands for itself; at most `fuel` characters. -/
def unescape : Nat → List Char → Except String (List Char)
  | 0, _ => .ok []
  | _ + 1, [] => .ok []
  | fuel + 1, '\\' :: c :: cs =>
    match shortEscape? c with
    | some d => (unescape fuel cs).map (d :: ·)
    | none =>
      match codeEscape? c with
      | some (width, complaint) =>
        let digits := cs.take width
        if digits.length = width ∧ digits.all isHexDigit then
          if 0x110000 ≤ hexValue digits then .error "illegal Unicode character"
          else
            let (d, rest) := pointChar (hexValue digits) (cs.drop width)
            (unescape fuel rest).map (d :: ·)
        else .error complaint
      | none =>
        if c == '\n' then unescape fuel cs
        else if c == 'N' then
          match bracedName? cs with
          | none => .error "malformed \\N character escape"
          | some name =>
            match ofName? name with
            | none => .error "unknown Unicode character name"
            | some d => (unescape fuel (cs.drop (name.length + 2))).map (d :: ·)
        else if '0' ≤ c ∧ c ≤ '7' then
          let more := (cs.take 2).takeWhile fun d => '0' ≤ d && d ≤ '7'
          let n := ofDigits 8 ((c :: more).filterMap decimalDigit?)
          (unescape fuel (cs.drop more.length)).map (Char.ofNat n :: ·)
        else if 0x80 ≤ c.toNat then
          -- the character is spelt by its code, of which the backslash takes the first sign
          (unescape fuel cs).map fun t => '\\' :: ((numericEscape c.toNat).drop 1 ++ t)
        else (unescape fuel cs).map fun t => '\\' :: c :: t
  | fuel + 1, c :: cs => (unescape fuel cs).map (c :: ·)

end ApiScribe.Template
