import ApiScribe.Text.Quoted

/-!
# Text files

A file holds bytes.  Read as text they are UTF-8, and the line ends `\r\n` and `\r` become `\n`;
written, a text is its UTF-8 bytes and nothing is changed.  Bytes that are not UTF-8 are refused
at the first ill-formed sequence, with the reason.
-/

namespace ApiScribe.Text

/-- Why bytes are not UTF-8. -/
inductive Utf8Fault where
  | badStart
  | badContinuation
  | endOfData
  deriving DecidableEq, Repr

/-- The first ill-formed sequence: the position of its first byte, that byte, the length of the
part that could still have begun a character, and the fault. -/
structure Utf8Error where
  start : Nat
  byte : UInt8
  length : Nat
  fault : Utf8Fault
  deriving DecidableEq, Repr

/-- What is wrong with the sequence, in words. -/
def Utf8Fault.text : Utf8Fault → String
  | .badStart => "invalid start byte"
  | .badContinuation => "invalid continuation byte"
  | .endOfData => "unexpected end of data"

/-- The error as shown to the user: the byte at fault, or the positions of several. -/
def Utf8Error.message (e : Utf8Error) : String :=
  let place :=
    if e.length = 1 then
      "byte 0x" ++ String.ofList (hexDigits 2 e.byte.toNat) ++ " in position " ++ toString e.start
    else
      "bytes in position " ++ toString e.start ++ "-" ++ toString (e.start + e.length - 1)
  "'utf-8' codec can't decode " ++ place ++ ": " ++ e.fault.text

/-- How a lead byte begins a character: the number of bytes that follow it, its payload and the
range that the second byte must be in. -/
def leadByte? (b : UInt8) : Option (Nat × Nat × UInt8 × UInt8) :=
  if b < 0x80 then some (0, b.toNat, 0x80, 0xBF)
  else if b < 0xC2 then none
  else if b < 0xE0 then some (1, b.toNat % 0x20, 0x80, 0xBF)
  else if b < 0xF0 then
    some (2, b.toNat % 0x10, if b == 0xE0 then 0xA0 else 0x80, if b == 0xED then 0x9F else 0xBF)
  else if b < 0xF5 then
    some (3, b.toNat % 0x08, if b == 0xF0 then 0x90 else 0x80, if b == 0xF4 then 0x8F else 0xBF)
  else none

/-- Takes `count` continuation bytes, the first of them in the given range; on failure, how many
were taken and whether the bytes ran out. -/
def continuation (low high : UInt8) :
    Nat → Nat → List UInt8 → Except (Nat × Utf8Fault) (Nat × List UInt8)
  | 0, acc, rest => .ok (acc, rest)
  | _ + 1, _, [] => .error (0, .endOfData)
  | count + 1, acc, b :: rest =>
    if low ≤ b ∧ b ≤ high then
      match continuation 0x80 0xBF count (acc * 0x40 + b.toNat % 0x40) rest with
      | .ok r => .ok r
      | .error (taken, fault) => .error (taken + 1, fault)
    else .error (0, .badContinuation)

/-- Decodes the bytes from position `start` on; at most `fuel` characters. -/
def decodeFrom : Nat → Nat → List UInt8 → Except Utf8Error (List Char)
  | 0, _, _ => .ok []
  | _ + 1, _, [] => .ok []
  | fuel + 1, start, b :: rest =>
    match leadByte? b with
    | none => .error ⟨start, b, 1, .badStart⟩
    | some (count, payload, low, high) =>
      match continuation low high count payload rest with
      | .error (taken, fault) => .error ⟨start, b, taken + 1, fault⟩
      | .ok (n, rest) =>
        match decodeFrom fuel (start + count + 1) rest with
        | .error e => .error e
        | .ok cs => .ok (Char.ofNat n :: cs)

/-- The text of UTF-8 bytes. -/
def decodeUtf8 (bytes : List UInt8) : Except Utf8Error (List Char) :=
  decodeFrom bytes.length 0 bytes

/-- The UTF-8 bytes of a character. -/
def encodeChar (c : Char) : List UInt8 :=
  let n := c.toNat
  if n < 0x80 then [n.toUInt8]
  else if n < 0x800 then [(0xC0 + n / 0x40).toUInt8, (0x80 + n % 0x40).toUInt8]
  else if n < 0x10000 then
    [(0xE0 + n / 0x1000).toUInt8, (0x80 + n / 0x40 % 0x40).toUInt8, (0x80 + n % 0x40).toUInt8]
  else
    [(0xF0 + n / 0x40000).toUInt8, (0x80 + n / 0x1000 % 0x40).toUInt8,
      (0x80 + n / 0x40 % 0x40).toUInt8, (0x80 + n % 0x40).toUInt8]

/-- The UTF-8 bytes of a text. -/
def encodeUtf8 (cs : List Char) : List UInt8 := cs.flatMap encodeChar

/-- The text with the line ends `\r\n` and `\r` turned into `\n`. -/
def unifyLineEnds : List Char → List Char
  | [] => []
  | '\r' :: '\n' :: cs => '\n' :: unifyLineEnds cs
  | '\r' :: cs => '\n' :: unifyLineEnds cs
  | c :: cs => c :: unifyLineEnds cs

end ApiScribe.Text
