import ApiScribe.Text.Split

/-!
# Tags

A tag says what a node stands for.  A plain scalar without a tag is recognised by its form; every
other scalar without one is a text.
-/

namespace ApiScribe.Yaml

/-- What a node stands for. -/
inductive Tag where
  | null
  | bool
  | int
  | float
  | binary
  | timestamp
  | str
  | seq
  | map
  | set
  | omap
  | pairs
  /-- The key whose value is merged into the mapping around it. -/
  | merge
  /-- The key for the value of a mapping that is read as a scalar. -/
  | value
  | unknown
  deriving DecidableEq, Repr, Inhabited

/-- What the names of all known tags begin with. -/
def standardTags : List Char := "tag:yaml.org,2002:".toList

/-- The tag of the given name. -/
def Tag.ofName (name : List Char) : Tag :=
  match (Text.dropLead? standardTags name).map String.ofList with
  | some "null" => .null
  | some "bool" => .bool
  | some "int" => .int
  | some "float" => .float
  | some "binary" => .binary
  | some "timestamp" => .timestamp
  | some "str" => .str
  | some "seq" => .seq
  | some "map" => .map
  | some "set" => .set
  | some "omap" => .omap
  | some "pairs" => .pairs
  | _ => .unknown

/-! ### The forms of plain scalars -/

/-- The text without an optional sign. -/
def unsigned : List Char → List Char
  | '-' :: cs => cs
  | '+' :: cs => cs
  | cs => cs

/-- A digit or an underscore. -/
def isDigitOrGap (c : Char) : Bool := c.isDigit || c == '_'

/-- Sexagesimal digits after colons, at least once; the text after them. -/
def sexagesimal? (cs : List Char) : Option (List Char) :=
  match Text.splitOn ':' cs with
  | [] :: pieces =>
    let isPlace (p : List Char) : Bool :=
      match p with
      | [a] => a.isDigit
      | [a, b] => '0' ≤ a && a ≤ '5' && b.isDigit
      | _ => false
    match pieces.reverse with
    | [] => none
    | last :: earlier =>
      -- only the last place may be followed by a fraction
      let place := last.takeWhile Char.isDigit
      if earlier.all isPlace && isPlace place then some (last.drop place.length) else none
  | _ => none

/-- An integer: binary, octal, decimal, hexadecimal or sexagesimal. -/
def isInteger (cs : List Char) : Bool :=
  let binary (c : Char) : Bool := c == '0' || c == '1' || c == '_'
  let octal (c : Char) : Bool := ('0' ≤ c && c ≤ '7') || c == '_'
  let hex (c : Char) : Bool :=
    isDigitOrGap c || ('a' ≤ c && c ≤ 'f') || ('A' ≤ c && c ≤ 'F')
  match unsigned cs with
  | ['0'] => true
  | '0' :: 'b' :: rest => !rest.isEmpty && rest.all binary
  | '0' :: 'x' :: rest => !rest.isEmpty && rest.all hex
  | '0' :: rest => rest.all octal
  | c :: rest =>
    c.isDigit && (rest.all isDigitOrGap || sexagesimal? (rest.dropWhile isDigitOrGap) == some [])
  | [] => false

/-- An exponent with a sign, or nothing. -/
def isExponent : List Char → Bool
  | [] => true
  | e :: s :: digits =>
    (e == 'e' || e == 'E') && (s == '-' || s == '+') && !digits.isEmpty && digits.all Char.isDigit
  | _ => false

/-- A float, decimal or sexagesimal, with a point; infinity, or no number. -/
def isFloat (cs : List Char) : Bool :=
  let body := unsigned cs
  let word (ws : List String) : Bool := ws.any fun w => body == w.toList
  match body with
  | '.' :: c :: rest =>
    word [".inf", ".Inf", ".INF"] ||
      (body.length == cs.length &&
        (word [".nan", ".NaN", ".NAN"] ||
          (c.isDigit && isExponent (rest.dropWhile isDigitOrGap))))
  | c :: rest =>
    c.isDigit &&
      match rest.dropWhile isDigitOrGap with
      | '.' :: fraction => isExponent (fraction.dropWhile isDigitOrGap)
      | more =>
        match sexagesimal? more with
        | some ('.' :: fraction) => fraction.all isDigitOrGap
        | _ => false
  | [] => false

/-- The parts of a date, with the time of day and the zone when they are given.  Numbers are as
written. -/
structure Timestamp where
  year : Nat
  month : Nat
  day : Nat
  time : Option (Nat × Nat × Nat × List Char)
  /-- Whether west of universal time, hours and minutes. -/
  zone : Option (Bool × Nat × Nat)
  deriving DecidableEq, Repr

/-- A number of `least` to `most` digits. -/
def digitsBetween (least most : Nat) (cs : List Char) : Option (Nat × List Char) :=
  let ds := (cs.take most).takeWhile Char.isDigit
  if ds.length < least then none
  else some (ds.foldl (fun n c => 10 * n + (c.toNat - 48)) 0, cs.drop ds.length)

/-- The text after a character. -/
def after? (mark : Char) : List Char → Option (List Char)
  | c :: cs => if c = mark then some cs else none
  | [] => none

/-- A blank or a tab. -/
def isSpace (c : Char) : Bool := c == ' ' || c == '\t'

/-- The zone at the end of a timestamp. -/
def readZone (cs : List Char) : Option (Option (Bool × Nat × Nat)) :=
  match cs.dropWhile isSpace with
  | [] => if cs.isEmpty then some none else none
  | ['Z'] => some (some (false, 0, 0))
  | s :: rest =>
    if s == '-' || s == '+' then do
      let (hours, rest) ← digitsBetween 1 2 rest
      match rest with
      | [] => some (some (s == '-', hours, 0))
      | ':' :: rest =>
        let (minutes, rest) ← digitsBetween 2 2 rest
        if rest.isEmpty then some (some (s == '-', hours, minutes)) else none
      | _ => none
    else none

/-- The text without one line break at its end.  A text that is only a line break is kept. -/
def withoutFinalBreak (cs : List Char) : List Char :=
  if 1 < cs.length && cs.getLast? == some '\n' then cs.dropLast else cs

/-- A date, or a date with the time of day; a line break may follow. -/
def readTimestamp (cs : List Char) : Option Timestamp := do
  let (year, cs) ← digitsBetween 4 4 (withoutFinalBreak cs)
  let (month, cs) ← digitsBetween 1 2 (← after? '-' cs)
  let (day, cs) ← digitsBetween 1 2 (← after? '-' cs)
  if cs.isEmpty then return ⟨year, month, day, none, none⟩
  let cs ← match cs with
    | 'T' :: rest => some rest
    | 't' :: rest => some rest
    | c :: rest => if isSpace c then some (rest.dropWhile isSpace) else none
    | [] => none
  let (hour, cs) ← digitsBetween 1 2 cs
  let (minute, cs) ← digitsBetween 2 2 (← after? ':' cs)
  let (second, cs) ← digitsBetween 2 2 (← after? ':' cs)
  let (fraction, cs) := match cs with
    | '.' :: rest => (rest.takeWhile Char.isDigit, rest.dropWhile Char.isDigit)
    | _ => ([], cs)
  return ⟨year, month, day, some (hour, minute, second, fraction), ← readZone cs⟩

/-- A timestamp; a date alone has ten characters. -/
def isTimestamp (cs : List Char) : Bool :=
  match readTimestamp cs with
  | some t => t.time.isSome || cs.length == 10
  | none => false

/-- The words for true and false. -/
def booleanWords : List String :=
  ["yes", "Yes", "YES", "no", "No", "NO", "true", "True", "TRUE", "false", "False", "FALSE",
    "on", "On", "ON", "off", "Off", "OFF"]

/-- The words for no value. -/
def nullWords : List String := ["", "~", "null", "Null", "NULL"]

/-- What a plain scalar stands for.  A line break after a form does not change what it is. -/
def Tag.ofPlain (text : List Char) : Tag :=
  let cs := withoutFinalBreak text
  let word := String.ofList cs
  if booleanWords.contains word then .bool
  else if isFloat cs then .float
  else if isInteger cs then .int
  else if word = "<<" then .merge
  else if nullWords.contains word then .null
  else if isTimestamp cs then .timestamp
  else if word = "=" then .value
  else if ["!", "&", "*"].contains word then .unknown
  else .str

end ApiScribe.Yaml
