import ApiScribe.Json.Basic
import ApiScribe.Outcome

/-!
# Reading JSON

`Json.read` accepts the JSON grammar, the words `NaN`, `Infinity` and `-Infinity`, and repeated
member names, of which the last wins.  A refusal names the first fault and the place of it; the
place is kept as the text that follows it, so that nothing is counted while reading.

How deep brackets are nested is limited, since each of them is read by a call inside of the calls
for those around it.  The reader takes the number of levels that are left; a run leaves it
`nestingLimit`.

Every function returns what is left of its input, which is shorter than what it was given; that
is also why reading ends.
-/

namespace ApiScribe.Json

/-- What is wrong with a text that is not JSON. -/
inductive Fault where
  | byteOrderMark
  | value
  | memberName
  | colon
  | comma
  | openString
  | controlCharacter
  | escape
  | unicodeEscape
  | extraData
  deriving DecidableEq, Repr

/-- The fault in words. -/
def Fault.message : Fault → String
  | .byteOrderMark => "Unexpected UTF-8 BOM (decode using utf-8-sig)"
  | .value => "Expecting value"
  | .memberName => "Expecting property name enclosed in double quotes"
  | .colon => "Expecting ':' delimiter"
  | .comma => "Expecting ',' delimiter"
  | .openString => "Unterminated string starting at"
  | .controlCharacter => "Invalid control character at"
  | .escape => "Invalid \\escape"
  | .unicodeEscape => "Invalid \\uXXXX escape"
  | .extraData => "Extra data"

/-- What the brackets of a text enclose. -/
inductive Container where
  | array
  | object
  deriving DecidableEq, Repr

/-- The word for what brackets enclose. -/
def Container.name : Container → String
  | .array => "array"
  | .object => "object"

/-- Why a text could not be read.  An integer of too many digits is no fault of the text, and
neither is a bracket inside of too many others. -/
inductive ReadError where
  | malformed (fault : Fault) (place : List Char)
  | integerTooLong (digits : Nat)
  | nestedTooDeep (container : Container)
  deriving DecidableEq, Repr

/-- Text that is shorter than `s`. -/
abbrev Shorter (s : List Char) := { r : List Char // r.length < s.length }

/-- The four characters that may stand between tokens. -/
def isSpace (c : Char) : Bool := c == ' ' || c == '\t' || c == '\n' || c == '\r'

/-- The text after its leading spaces. -/
def skipSpace (s : List Char) : List Char := s.dropWhile isSpace

theorem length_skipSpace_le (s : List Char) : (skipSpace s).length ≤ s.length :=
  (List.dropWhile_sublist isSpace).length_le

/-! ### Strings -/

/-- The value of a hexadecimal digit. -/
def hexDigit? (c : Char) : Option Nat :=
  if c.isDigit then some (c.toNat - 48)
  else if 'a' ≤ c ∧ c ≤ 'f' then some (c.toNat - 87)
  else if 'A' ≤ c ∧ c ≤ 'F' then some (c.toNat - 55)
  else none

/-- The unit written by four hexadecimal digits. -/
def fourHex? (a b c d : Char) : Option Nat := do
  return 4096 * (← hexDigit? a) + 256 * (← hexDigit? b) + 16 * (← hexDigit? c) + (← hexDigit? d)

/-- The character that a short escape stands for. -/
def shortEscape? (c : Char) : Option Char :=
  match c with
  | '"' => some '"'
  | '\\' => some '\\'
  | '/' => some '/'
  | 'b' => some '\x08'
  | 'f' => some '\x0c'
  | 'n' => some '\n'
  | 'r' => some '\r'
  | 't' => some '\t'
  | _ => none

/-- The unit is the first half of a surrogate pair. -/
def isHighSurrogate (n : Nat) : Bool := 0xD800 ≤ n && n ≤ 0xDBFF

/-- The unit is the second half of a surrogate pair. -/
def isLowSurrogate (n : Nat) : Bool := 0xDC00 ≤ n && n ≤ 0xDFFF

/-- Puts the two halves of each surrogate pair together. -/
def joinSurrogates : List Nat → List Nat
  | [] => []
  | [n] => [n]
  | high :: low :: rest =>
    if isHighSurrogate high && isLowSurrogate low then
      (0x10000 + (high - 0xD800) * 0x400 + (low - 0xDC00)) :: joinSurrogates rest
    else high :: joinSurrogates (low :: rest)

/-- The units of a string up to its closing quote, and the text after that quote.  `opening` is
the text from the opening quote on: the place named when the string has no end. -/
def stringUnits (opening : List Char) : List Char → Except ReadError (List Nat × List Char)
  | [] => .error (.malformed .openString opening)
  | '"' :: rest => .ok ([], rest)
  | ['\\'] => .error (.malformed .openString opening)
  -- an escape by code is only read where the text goes on after it
  | '\\' :: 'u' :: a :: b :: c :: d :: x :: rest =>
    match fourHex? a b c d with
    | none => .error (.malformed .unicodeEscape ('u' :: a :: b :: c :: d :: x :: rest))
    | some n => (stringUnits opening (x :: rest)).map fun (units, rest) => (n :: units, rest)
  | '\\' :: 'u' :: rest => .error (.malformed .unicodeEscape ('u' :: rest))
  | '\\' :: c :: rest =>
    match shortEscape? c with
    | none => .error (.malformed .escape ('\\' :: c :: rest))
    | some e => (stringUnits opening rest).map fun (units, rest) => (e.toNat :: units, rest)
  | c :: rest =>
    if c.toNat < 0x20 then .error (.malformed .controlCharacter (c :: rest))
    else (stringUnits opening rest).map fun (units, rest) => (c.toNat :: units, rest)

/-- A quote ends the string. -/
theorem stringUnits_quote (opening rest : List Char) :
    stringUnits opening ('"' :: rest) = .ok ([], rest) := by
  rw [stringUnits]

/-- The string after its opening quote: its code points and the text after its closing quote. -/
def stringBody (body : List Char) : Except ReadError (List Nat × List Char) :=
  (stringUnits ('"' :: body) body).map fun (units, rest) => (joinSurrogates units, rest)

theorem length_stringUnits_lt {opening s : List Char} {r : List Nat × List Char}
    (h : stringUnits opening s = .ok r) : r.2.length < s.length := by
  fun_induction stringUnits opening s generalizing r <;> grind [Outcome.map_eq_ok]

theorem length_stringBody_lt {body : List Char} {r : List Nat × List Char}
    (h : stringBody body = .ok r) : r.2.length < body.length := by
  obtain ⟨p, hp, rfl⟩ := Outcome.map_eq_ok.1 h
  have := length_stringUnits_lt hp
  simpa using this

/-! ### Numbers -/

/-- The longest integer, in digits, that is converted to a number. -/
def maxIntegerDigits : Nat := 4300

/-- Digits and the text after them. -/
def digitRun (s : List Char) : List Char × List Char :=
  (s.takeWhile Char.isDigit, s.dropWhile Char.isDigit)

/-- The number written by decimal digits. -/
def decimalValue (digits : List Char) : Nat :=
  digits.foldl (fun n c => 10 * n + (c.toNat - 48)) 0

/-- The integer part of a number, without needless zeros at its start. -/
def integerPart? : List Char → Option (List Char × List Char)
  | '0' :: rest => some (['0'], rest)
  | c :: rest =>
    if '1' ≤ c ∧ c ≤ '9' then let (more, rest) := digitRun rest; some (c :: more, rest) else none
  | [] => none

/-- The digits after a decimal point, if at least one follows it. -/
def fractionPart (s : List Char) : List Char × List Char :=
  match s with
  | '.' :: c :: rest =>
    if c.isDigit then let (more, rest) := digitRun rest; (c :: more, rest) else ([], s)
  | _ => ([], s)

/-- The sign of an exponent and what follows it. -/
def exponentSign : List Char → Bool × List Char
  | '+' :: rest => (false, rest)
  | '-' :: rest => (true, rest)
  | s => (false, s)

/-- The exponent, if the letter for it is followed by digits. -/
def exponentPart : List Char → Option Int × List Char
  | [] => (none, [])
  | c :: rest =>
    let body := (exponentSign rest).2
    if (c = 'e' ∨ c = 'E') ∧ (digitRun body).1 ≠ [] then
      let n : Int := decimalValue (digitRun body).1
      (some (if (exponentSign rest).1 then -n else n), (digitRun body).2)
    else (none, c :: rest)

/-- A number as it is written. -/
structure NumberText where
  negative : Bool
  whole : List Char
  fraction : List Char
  exponent : Option Int

/-- The value of a number: an integer unless it has a fraction or an exponent. -/
def NumberText.value (n : NumberText) : Except ReadError Json :=
  if n.fraction.isEmpty && n.exponent.isNone then
    if n.whole.length > maxIntegerDigits then .error (.integerTooLong n.whole.length)
    else
      let magnitude : Int := decimalValue n.whole
      .ok (.int (if n.negative then -magnitude else magnitude))
  else
    let x := Decimal.nearestFloat (decimalValue (n.whole ++ n.fraction))
      (n.exponent.getD 0 - n.fraction.length)
    .ok (.float (if n.negative then -x else x))

/-- The sign of a number and what follows it. -/
def numberSign : List Char → Bool × List Char
  | '-' :: rest => (true, rest)
  | s => (false, s)

/-- A number and the text after it; `none` where no number starts. -/
def number? (s : List Char) : Option (NumberText × List Char) :=
  (integerPart? (numberSign s).2).map fun (whole, rest) =>
    let (fraction, rest) := fractionPart rest
    let (exponent, rest) := exponentPart rest
    (⟨(numberSign s).1, whole, fraction, exponent⟩, rest)

/-! ### Values -/

/-- The words that are values, the longer before their beginnings. -/
def words : List (List Char × Json) :=
  [("null".toList, .null), ("true".toList, .bool true), ("false".toList, .bool false),
   ("NaN".toList, .float (0.0 / 0.0)), ("Infinity".toList, .float (1.0 / 0.0)),
   ("-Infinity".toList, .float (-1.0 / 0.0))]

/-- A word that is a value, and the text after it. -/
def word? (s : List Char) : Option (Json × List Char) :=
  words.findSome? fun (w, v) => (Text.dropLead? w s).map fun rest => (v, rest)

theorem length_digitRun_le (s : List Char) : (digitRun s).2.length ≤ s.length :=
  (List.dropWhile_sublist _).length_le

theorem length_integerPart?_lt {s : List Char} {r : List Char × List Char}
    (h : integerPart? s = some r) : r.2.length < s.length := by
  unfold integerPart? at h
  split at h
  · simp only [Option.some.injEq] at h
    simp [← h]
  · next c rest _ =>
    split at h
    · simp only [Option.some.injEq] at h
      have := length_digitRun_le rest
      simp only [← h, List.length_cons]
      omega
    · simp at h
  · simp at h

theorem length_fractionPart_le (s : List Char) : (fractionPart s).2.length ≤ s.length := by
  unfold fractionPart
  split
  · next c rest =>
    split
    · have := length_digitRun_le rest
      simp only [List.length_cons]
      omega
    · exact Nat.le_refl _
  · exact Nat.le_refl _

theorem length_exponentSign_le (s : List Char) : (exponentSign s).2.length ≤ s.length := by
  unfold exponentSign
  split <;> simp

theorem length_exponentPart_le (s : List Char) : (exponentPart s).2.length ≤ s.length := by
  fun_cases exponentPart s with
  | case1 => simp
  | case2 c rest body h n =>
    have h1 : body.length ≤ rest.length := length_exponentSign_le rest
    have h2 := length_digitRun_le body
    simp only [List.length_cons]
    omega
  | case3 => simp

theorem length_number?_lt {s : List Char} {r : NumberText × List Char}
    (h : number? s = some r) : r.2.length < s.length := by
  obtain ⟨⟨whole, rest⟩, hi, rfl⟩ := Option.map_eq_some_iff.1 h
  have h0 : (numberSign s).2.length ≤ s.length := by unfold numberSign; split <;> simp
  have h1 := length_integerPart?_lt hi
  have h2 := length_fractionPart_le rest
  have h3 := length_exponentPart_le (fractionPart rest).2
  simp only at h1 ⊢
  omega

theorem length_word?_lt {s : List Char} {r : Json × List Char} (h : word? s = some r) :
    r.2.length < s.length := by
  obtain ⟨⟨w, v⟩, hm, hd⟩ := List.exists_of_findSome?_eq_some h
  obtain ⟨rest, hr, rfl⟩ := Option.map_eq_some_iff.1 hd
  have := Text.dropLead?_length hr
  have hw : 0 < w.length := by
    simp only [words, List.mem_cons, Prod.mk.injEq, List.not_mem_nil, or_false] at hm
    rcases hm with h | h | h | h | h | h <;> simp [h.1]
  simp only
  omega

/-- How deep brackets may be nested in a text that a run reads: a thousand calls inside of each
other, less those under way when reading begins.  How many these are depends on what asked for the
text. -/
def nestingLimit : Nat := 988

mutual

/-- The value at the start of a text, and the text after it.  So many levels of brackets are left,
and an empty pair of brackets takes one as well. -/
def value (levels : Nat) (s : List Char) : Except ReadError (Json × Shorter s) :=
  match s with
  | '"' :: body =>
    match h : stringBody body with
    | .error e => .error e
    | .ok (points, rest) =>
      .ok (ofCodePoints points, ⟨rest, Nat.lt_succ_of_lt (length_stringBody_lt h)⟩)
  | '[' :: body =>
    match levels with
    | 0 => .error (.nestedTooDeep .array)
    | levels + 1 =>
      have hb := length_skipSpace_le body
      match h : skipSpace body with
      | ']' :: rest => .ok (.array [], ⟨rest, by simp [h] at hb; simp; omega⟩)
      | inner =>
        match items levels inner with
        | .error e => .error e
        | .ok (vs, ⟨rest, hr⟩) => .ok (.array vs, ⟨rest, by simp [h] at hb; simp; omega⟩)
  | '{' :: body =>
    match levels with
    | 0 => .error (.nestedTooDeep .object)
    | levels + 1 =>
      have hb := length_skipSpace_le body
      match h : skipSpace body with
      | '}' :: rest => .ok (.object [], ⟨rest, by simp [h] at hb; simp; omega⟩)
      | inner =>
        match members levels inner with
        | .error e => .error e
        | .ok (ms, ⟨rest, hr⟩) => .ok (ofMembers ms, ⟨rest, by simp [h] at hb; simp; omega⟩)
  | s =>
    -- words first: `-Infinity` starts like a number
    match h : word? s with
    | some (v, rest) => .ok (v, ⟨rest, length_word?_lt h⟩)
    | none =>
      match h : number? s with
      | none => .error (.malformed .value s)
      | some (n, rest) =>
        match n.value with
        | .error e => .error e
        | .ok v => .ok (v, ⟨rest, length_number?_lt h⟩)
  termination_by (s.length, 0)
  decreasing_by all_goals (simp [h] at hb; simp only [List.length_cons]; omega)

/-- The items of an array up to its closing bracket, and the text after that bracket. -/
def items (levels : Nat) (s : List Char) : Except ReadError (List Json × Shorter s) :=
  match value levels s with
  | .error e => .error e
  | .ok (v, ⟨rest, hr⟩) =>
    have hs := length_skipSpace_le rest
    match h : skipSpace rest with
    | ']' :: rest => .ok ([v], ⟨rest, by simp [h] at hs; omega⟩)
    | ',' :: more =>
      have hm := length_skipSpace_le more
      match items levels (skipSpace more) with
      | .error e => .error e
      | .ok (vs, ⟨rest, _⟩) => .ok (v :: vs, ⟨rest, by simp [h] at hs; omega⟩)
    | place => .error (.malformed .comma place)
  termination_by (s.length, 1)
  decreasing_by
    · exact Prod.Lex.right _ Nat.zero_lt_one
    · simp [h] at hs; omega

/-- The members of an object up to its closing brace, and the text after that brace. -/
def members (levels : Nat) (s : List Char) : Except ReadError (List (Name × Json) × Shorter s) :=
  match s with
  | '"' :: body =>
    match hk : stringBody body with
    | .error e => .error e
    | .ok (points, rest) =>
      have hb := length_stringBody_lt hk
      have hs := length_skipSpace_le rest
      match h : skipSpace rest with
      | ':' :: after =>
        have ha := length_skipSpace_le after
        match value levels (skipSpace after) with
        | .error e => .error e
        | .ok (v, ⟨rest, hr⟩) =>
          have ht := length_skipSpace_le rest
          match h' : skipSpace rest with
          | '}' :: rest =>
            .ok ([(Name.ofCodePoints points, v)], ⟨rest, by simp_all; omega⟩)
          | ',' :: more =>
            have hm := length_skipSpace_le more
            match members levels (skipSpace more) with
            | .error e => .error e
            | .ok (ms, ⟨rest, _⟩) =>
              .ok ((Name.ofCodePoints points, v) :: ms, ⟨rest, by simp_all; omega⟩)
          | place => .error (.malformed .comma place)
      | place => .error (.malformed .colon place)
  | place => .error (.malformed .memberName place)
  termination_by (s.length, 1)
  decreasing_by all_goals (simp_all; omega)

end

/-- The value that a text holds, spaces around it apart, if it takes so many levels of brackets. -/
def readWithin (levels : Nat) (text : List Char) : Except ReadError Json :=
  match text with
  | '\uFEFF' :: _ => .error (.malformed .byteOrderMark text)
  | _ =>
    match value levels (skipSpace text) with
    | .error e => .error e
    | .ok (v, ⟨rest, _⟩) =>
      match skipSpace rest with
      | [] => .ok v
      | place => .error (.malformed .extraData place)

/-- The value that a run reads from a text. -/
def read (text : List Char) : Except ReadError Json := readWithin nestingLimit text

end ApiScribe.Json
