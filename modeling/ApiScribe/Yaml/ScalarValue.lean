import ApiScribe.Json.Basic
import ApiScribe.Schema.Datum
import ApiScribe.Text.Base64
import ApiScribe.Text.Casing
import ApiScribe.Text.Number
import ApiScribe.Text.Utf8
import ApiScribe.Yaml.Tag
import ApiScribe.Yaml.Token

/-!
# The values of scalars

A scalar has the form of its tag, but the form alone does not make a value: there is no month 13,
and `0b` followed by underscores has no digits.
-/

namespace ApiScribe.Yaml

/-- The value of a scalar, as far as a schema or a key needs it. -/
inductive ScalarValue where
  | null
  | bool (b : Bool)
  | int (n : Int)
  | float (x : Float)
  | text (points : List Nat)
  | bytes (bs : List UInt8)
  /-- A date or a time, as it is shown. -/
  | timestamp (shown : String)

/-! ### Numbers -/

/-- A shown text. -/
def shown (cs : List Char) : String := String.ofList (Text.quoted cs)

/-- An integer of a base. -/
def integerIn (base : Nat) (cs : List Char) : Except ValueFault Int :=
  match Text.readInteger base cs with
  | .ok n => .ok n
  | .error .malformed => .error (.notInteger base (shown cs))
  | .error (.tooLong digits) => .error (.integerTooLong digits)

/-- The number with the given sexagesimal places. -/
def ofPlaces (places : List Int) : Int := places.foldl (fun n d => 60 * n + d) 0

/-- An integer. -/
def integerOf (cs : List Char) : Except ValueFault Int := do
  let cs := cs.filter (· != '_')
  let body := unsigned cs
  let signed (n : Int) : Int := if cs.head? == some '-' then -n else n
  match body with
  | [] => .error .emptyNumber
  | '0' :: 'b' :: digits => return signed (← integerIn 2 digits)
  | '0' :: 'x' :: digits => return signed (← integerIn 16 digits)
  -- the zero itself is octal, too
  | '0' :: _ => return signed (← integerIn 8 body)
  | _ => return signed (ofPlaces (← (Text.splitOn ':' body).mapM (integerIn 10)))

/-- A float without sign and words. -/
def floatIn (cs : List Char) : Except ValueFault Float :=
  match Text.readFloat? cs with
  | some x => .ok x
  | none => .error (.notFloat (shown cs))

/-- A float. -/
def floatOf (cs : List Char) : Except ValueFault Float := do
  let cs := Text.lower (cs.filter (· != '_'))
  let body := unsigned cs
  let signed (x : Float) : Float := if cs.head? == some '-' then -x else x
  if cs.isEmpty then .error .emptyNumber
  else if body = ".inf".toList then return signed (1.0 / 0.0)
  else if body = ".nan".toList then return 0.0 / 0.0
  else if body.contains ':' then
    let places ← (Text.splitOn ':' body).mapM floatIn
    let add := fun d ((sum, unit) : Float × Float) => (sum + d * unit, 60 * unit)
    let (sum, _) := places.foldr add (0.0, 1.0)
    return signed sum
  else return signed (← floatIn body)

/-! ### Dates and times -/

/-- The year has a 29 February. -/
def isLeapYear (year : Nat) : Bool := year % 4 == 0 && (year % 100 != 0 || year % 400 == 0)

/-- The number of days of a month. -/
def daysIn (year month : Nat) : Nat :=
  if month = 2 then if isLeapYear year then 29 else 28
  else if [4, 6, 9, 11].contains month then 30 else 31

/-- A span of minutes, in days and seconds. -/
def shownSpan (minutes : Int) : String :=
  let days := minutes.fdiv 1440
  let seconds := 60 * minutes.fmod 1440
  let parts := (if days = 0 then [] else ["days=" ++ toString days]) ++
    (if seconds = 0 then [] else ["seconds=" ++ toString seconds])
  "datetime.timedelta(" ++ (if parts.isEmpty then "0" else ", ".intercalate parts) ++ ")"

/-- The millionths of a second that fraction digits write. -/
def microseconds (fraction : List Char) : Nat :=
  ((fraction ++ List.replicate 6 '0').take 6).foldl (fun n c => 10 * n + (c.toNat - 48)) 0

/-- The date is one of the calendar. -/
def checkDate (t : Timestamp) : Except ValueFault Unit :=
  if t.year = 0 then .error (.yearOutOfRange t.year)
  else if t.month = 0 ∨ 12 < t.month then .error .monthOutOfRange
  else if t.day = 0 ∨ daysIn t.year t.month < t.day then .error .dayOutOfRange
  else .ok ()

/-- The zone of a timestamp as it is shown. -/
def shownZone : Option (Bool × Nat × Nat) → Except ValueFault (List String)
  | none => .ok []
  | some (west, hours, minutes) =>
    let offset : Int := if west then -(60 * hours + minutes : Int) else 60 * hours + minutes
    if 1440 ≤ offset.natAbs then .error (.offsetOutOfRange (shownSpan offset))
    else if offset = 0 then .ok ["tzinfo=datetime.timezone.utc"]
    else .ok ["tzinfo=datetime.timezone(" ++ shownSpan offset ++ ")"]

/-- A timestamp as it is shown. -/
def Timestamp.show (t : Timestamp) : Except ValueFault String := do
  let date := [t.year, t.month, t.day].map toString
  match t.time with
  | none => do
    checkDate t
    return "datetime.date(" ++ ", ".intercalate date ++ ")"
  | some (hour, minute, second, fraction) => do
    -- of an offset and a date that are both out of range the offset is reported
    let zone ← shownZone t.zone
    checkDate t
    if 23 < hour then .error .hourOutOfRange
    else if 59 < minute then .error .minuteOutOfRange
    else if 59 < second then .error .secondOutOfRange
    else
      let micros := microseconds fraction
      let time := [hour, minute] ++ (if second = 0 ∧ micros = 0 then [] else [second]) ++
        (if micros = 0 then [] else [micros])
      return "datetime.datetime(" ++ ", ".intercalate (date ++ time.map toString ++ zone) ++ ")"

/-! ### All scalars -/

/-- The value of a scalar.  Only a text keeps a surrogate without its partner. -/
def ScalarValue.of (tag : Tag) (points : List Nat) : Except Error ScalarValue :=
  let cs := Json.characters points
  let faulty {α : Type} : Except ValueFault α → Except Error α
    | .ok a => .ok a
    | .error fault => .error (.value fault)
  match tag with
  | .null => .ok .null
  | .bool =>
    let word := Text.lower cs
    if ["yes", "true", "on"].any (word == ·.toList) then .ok (.bool true)
    else if ["no", "false", "off"].any (word == ·.toList) then .ok (.bool false)
    else .error (.value (.notBoolean (shown word)))
  | .int => (faulty (integerOf cs)).map .int
  | .float => (faulty (floatOf cs)).map .float
  | .str => .ok (.text points)
  | .timestamp =>
    match readTimestamp cs with
    | some t => (faulty t.show).map .timestamp
    | none => .error (.value .notTimestamp)
  | .binary =>
    if cs.any fun c => 0x80 ≤ c.toNat then .error .malformed
    else match Text.decodeBase64 cs with
      | some bs => .ok (.bytes bs)
      | none => .error .malformed
  | _ => .error .malformed

namespace ScalarValue

/-- What a schema sees of a scalar: a text, or bytes that write one. -/
def toDatum : ScalarValue → Datum
  | .text points => .ofCodePoints points
  | .bytes bs =>
    match Text.decodeUtf8 bs with
    | .ok cs => .text (String.ofList cs)
    | .error _ => .illFormedText
  | _ => .scalar

/-- A number between the least and the most that an index can be. -/
def isIndex (n : Int) : Bool := -9223372036854775808 ≤ n && n < 9223372036854775808

/-- A shown byte. -/
def shownByte (b : UInt8) : List Char :=
  let c := Char.ofNat b.toNat
  if b == 9 then ['\\', 't'] else if b == 10 then ['\\', 'n'] else if b == 13 then ['\\', 'r']
  else if b == 0x27 || b == 0x5C then ['\\', c]
  else if 0x20 ≤ b && b < 0x7F then [c] else '\\' :: 'x' :: Text.hexDigits 2 b.toNat

/-- A scalar as a key. -/
def toKey : ScalarValue → Datum.Key
  | .null => .other "None"
  | .bool b => .number (if b then 1 else 0)
  | .int n => if isIndex n then .number n else .other (toString n)
  | .float x => .other (String.ofList (Decimal.floatText x))
  | .text points => .text (Json.replaceUnpaired points)
  | .bytes bs => .other (String.ofList ('b' :: '\'' :: (bs.flatMap shownByte ++ ['\''])))
  | .timestamp shown => .other shown

/-- The whole number that a float is. -/
def wholeNumber? (x : Float) : Option Int :=
  match Decimal.parts x with
  | .finite negative m q _ =>
    let unit := Decimal.twoTo (-q).toNat
    if m % unit = 0 then
      let n : Int := m * Decimal.twoTo q.toNat / unit
      some (if negative then -n else n)
    else none
  | _ => none

/-- What makes two keys the same: a float that is a whole number is the same key as the integer. -/
def identity (v : ScalarValue) : Datum.Key :=
  match v with
  | .int n => .number n
  | .float x =>
    match wholeNumber? x with
    | some n => .number n
    | none => v.toKey
  | _ => v.toKey

end ScalarValue
end ApiScribe.Yaml
