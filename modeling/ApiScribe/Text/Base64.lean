import ApiScribe.Text.Split

/-!
# Base 64

Four characters of an alphabet of 64 stand for three bytes; at the end, one or two equals signs
stand in for what is missing.  Characters outside the alphabet count for nothing when read.
-/

namespace ApiScribe.Text

/-- The alphabet, in the order of the digits. -/
def base64Alphabet : List Char :=
  "ABCDEFGHIJKLMNOPQRSTUVWXYZabcdefghijklmnopqrstuvwxyz0123456789+/".toList

/-- The character of a digit. -/
def base64Char (n : Nat) : Char := base64Alphabet.getD n 'A'

/-- The text of bytes. -/
def encodeBase64 : List UInt8 → List Char
  | [] => []
  | [a] =>
    let n := a.toNat * 16
    [base64Char (n / 64), base64Char (n % 64), '=', '=']
  | [a, b] =>
    let n := (a.toNat * 256 + b.toNat) * 4
    [base64Char (n / 4096), base64Char (n / 64 % 64), base64Char (n % 64), '=']
  | a :: b :: c :: rest =>
    let n := (a.toNat * 256 + b.toNat) * 256 + c.toNat
    base64Char (n / 262144) :: base64Char (n / 4096 % 64) :: base64Char (n / 64 % 64) ::
      base64Char (n % 64) :: encodeBase64 rest

/-- Bytes of the digits of a text; `held` are the digits of the current group, last one first, and
`padding` counts the equals signs after them.  `none` if the last group is not complete. -/
def decodeBase64From (held : List Nat) (padding : Nat) : List Char → Option (List UInt8)
  | [] => if held.isEmpty then some [] else none
  | '=' :: cs =>
    match held with
    | [c, b, a] =>
      -- the first complete group with padding ends the text
      let n := (a * 64 + b) * 64 + c
      some [(n / 1024).toUInt8, (n / 4 % 256).toUInt8]
    | [b, a] =>
      if padding = 1 then some [((a * 64 + b) / 16).toUInt8]
      else decodeBase64From held (padding + 1) cs
    | _ => decodeBase64From held padding cs
  | c :: cs =>
    match base64Alphabet.idxOf? c with
    | none => decodeBase64From held padding cs
    | some d =>
      match held with
      | [z, y, x] =>
        let n := ((x * 64 + y) * 64 + z) * 64 + d
        (decodeBase64From [] 0 cs).map fun bs =>
          (n / 65536).toUInt8 :: (n / 256 % 256).toUInt8 :: (n % 256).toUInt8 :: bs
      | _ => decodeBase64From (d :: held) 0 cs

/-- The bytes that a text stands for. -/
def decodeBase64 (cs : List Char) : Option (List UInt8) := decodeBase64From [] 0 cs

end ApiScribe.Text
