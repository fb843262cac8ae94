import ApiScribe.Decimal.Form
import ApiScribe.Template.Iterate
import ApiScribe.Text.Number

/-!
# Filling in values

`text % values` puts values in for the marks in a text.  A mark is a percent sign, an optional key
in parentheses, flags, a width, a precision after a point, and a letter that tells how the value is
shown; a width or precision of `*` is a value itself.  In a text that needs no escaping, what is
filled in is escaped.
-/

namespace ApiScribe.Template

/-- A text in which nothing can be mistaken for markup. -/
def escapeMarkup (s : String) : String :=
  String.ofList (s.toList.flatMap fun c =>
    match c with
    | '&' => "&amp;".toList
    | '<' => "&lt;".toList
    | '>' => "&gt;".toList
    | '\'' => "&#39;".toList
    | '"' => "&#34;".toList
    | c => [c])

/-- The flags of a mark. -/
structure MarkFlags where
  /-- The value stands at the left. -/
  left : Bool := false
  /-- A number that is not negative has a plus sign. -/
  plus : Bool := false
  /-- A number that is not negative has a blank for its sign. -/
  blank : Bool := false
  /-- A number shows its base, or keeps its point. -/
  full : Bool := false
  /-- A number is filled up with zeros. -/
  zeros : Bool := false

/-- A mark without its key. -/
structure Mark where
  flags : MarkFlags
  width : Option Nat
  precision : Option Nat
  letter : Char

/-- Takes the flags from a text. -/
def takeFlags (f : MarkFlags) : List Char → MarkFlags × List Char
  | '-' :: cs => takeFlags { f with left := true } cs
  | '+' :: cs => takeFlags { f with plus := true } cs
  | ' ' :: cs => takeFlags { f with blank := true } cs
  | '#' :: cs => takeFlags { f with full := true } cs
  | '0' :: cs => takeFlags { f with zeros := true } cs
  | cs => (f, cs)

/-- Takes a key from a text after its opening parenthesis; parentheses inside of it are balanced. -/
def takeKey : Nat → List Char → Option (List Char × List Char)
  | _, [] => none
  | 0, ')' :: cs => some ([], cs)
  | depth + 1, ')' :: cs => (takeKey depth cs).map fun (key, rest) => (')' :: key, rest)
  | depth, c :: cs =>
    (takeKey (if c = '(' then depth + 1 else depth) cs).map fun (key, rest) => (c :: key, rest)

/-- What is known while marks are filled in. -/
structure Filling where
  /-- The number of characters of the whole text. -/
  size : Nat
  /-- What is filled in is escaped. -/
  escaping : Bool
  /-- What is asked for keys. -/
  keyed : Option Value
  /-- The values that are left. -/
  values : List Value

namespace Filling

open Eval

/-- The next value. -/
def next (s : Filling) : Eval (Value × Filling) := do
  match s.values with
  | [] => failType "not enough arguments for format string"
  | v :: rest => return (v, { s with values := rest })

/-- The name of the type of a value to be filled in. -/
def typeName (s : Filling) (v : Value) : Eval String := do
  if s.escaping then return "_MarkupEscapeHelper" else Eval.typeName v

/-! ### Texts -/

/-- A text with every character above ASCII written by its code. -/
def inAscii (cs : List Char) : List Char :=
  cs.flatMap fun c => if c.toNat < 0x80 then [c] else Text.numericEscape c.toNat

/-- The text of a value as a letter asks for. -/
def textOf (s : Filling) (letter : Char) (v : Value) : Eval (List Char) := do
  if letter = 's' then
    match s.escaping, v with
    | false, v => return (← display v).toList
    | true, .markup t => return t.toList
    | true, v => return (escapeMarkup (← display v)).toList
  else
    let shown ← literal v
    let cs := (if s.escaping then escapeMarkup shown else shown).toList
    return if letter = 'a' then inAscii cs else cs

/-- The character of a value; a surrogate is none that a text can hold. -/
def charOf (s : Filling) (v : Value) : Eval Char := do
  let misfit : Eval Char := failType "%c requires int or char"
  if s.escaping then misfit
  else
    match v.integer?, (v.string?.map String.toList) with
    | some n, _ =>
      if n < 0 ∨ 0x110000 ≤ n then fail .overflow "%c arg not in range(0x110000)"
      else if 0xD800 ≤ n ∧ n ≤ 0xDFFF then throw (.unsupported "A lone surrogate")
      else return Char.ofNat n.toNat
    | none, some [c] => return c
    | none, _ => misfit

/-! ### Numbers -/

/-- An integer that a text writes. -/
def readWhole (t : String) : Eval Int := do
  match Text.readInteger 10 t.toList with
  | .ok n => return n
  | .error .malformed =>
    fail .value ("invalid literal for int() with base 10: " ++ Text.quotedString t)
  | .error (.tooLong digits) =>
    throw (.integerTooLong digits)

/-- A float that a text writes. -/
def readReal (t : String) : Eval Float := do
  match Text.readFloat? t.toList with
  | some x => return x
  | none => fail .value ("could not convert string to float: " ++ Text.quotedString t)

/-- The whole part of a float. -/
def wholePart (x : Float) : Except Fault Int :=
  match Decimal.truncate? x with
  | some n => .ok n
  | none =>
    if x.isNaN then .error ⟨.value, "cannot convert float NaN to integer"⟩
    else .error ⟨.overflow, "cannot convert float infinity to integer"⟩

/-- A value as a whole number. -/
def wholeOf (s : Filling) (letter : Char) (v : Value) : Eval Int := do
  let misfit : Eval Int := do
    failType ("%" ++ String.singleton letter ++ " format: a real number is required, not " ++
      (← s.typeName v))
  match v with
  | .undefined message _ => failUndefined message
  | v =>
    match v.number? with
    | some (.int n) => return n
    | some (.float x) => Eval.ofExcept (wholePart x)
    | some (.complex _ _) => misfit
    | none =>
      match s.escaping, v.string? with
      | true, some t => readWhole t
      | _, _ => misfit

/-- A value as an integer that is written in a base. -/
def integerOf (s : Filling) (letter : Char) (v : Value) : Eval Int := do
  match s.escaping, v.integer? with
  | false, some n => return n
  | _, _ =>
    failType ("%" ++ String.singleton letter ++ " format: an integer is required, not " ++
      (← s.typeName v))

/-- A value as a float. -/
def realOf (s : Filling) (v : Value) : Eval Float := do
  let misfit : Eval Float := do
    if s.escaping then
      failType ("float() argument must be a string or a real number, not " ++
        Text.quotedString (← Eval.typeName v))
    else failType ("must be real number, not " ++ (← Eval.typeName v))
  match v with
  | .undefined message _ => failUndefined message
  | v =>
    match v.number? with
    | some (.complex _ _) => misfit
    | some a => Eval.ofExcept a.toFloat
    | none =>
      match s.escaping, v.string? with
      | true, some t => readReal t
      | _, _ => misfit

/-- A whole number: its digits, at least as many as the precision says, after a mark of the base. -/
def wholeText (n : Int) (precision : Option Nat) (base : List Char) (digits : List Char) :
    List Char :=
  let zeros := List.replicate (precision.getD 0 - digits.length) '0'
  (if n < 0 then ['-'] else []) ++ base ++ zeros ++ digits

/-- The text of a number as a letter asks for; none if the letter asks for no number. -/
def numberText? (s : Filling) (m : Mark) (v : Value) : Eval (Option (List Char)) := do
  let places := m.precision.getD 6
  let inBase (base : Nat) (mark : List Char) : Eval (List Char) := do
    let n ← s.integerOf m.letter v
    return wholeText n m.precision (if m.flags.full then mark else []) (Nat.toDigits base n.natAbs)
  let asFloat (form : Decimal.Form) : Eval (List Char) := do
    return form.text places m.flags.full (← s.realOf v)
  let capitals (cs : List Char) : List Char := cs.map Char.toUpper
  match m.letter with
  | 'o' => return some (← inBase 8 ['0', 'o'])
  | 'x' => return some (← inBase 16 ['0', 'x'])
  | 'X' => return some (capitals (← inBase 16 ['0', 'x']))
  | 'e' => return some (← asFloat .scientific)
  | 'E' => return some (capitals (← asFloat .scientific))
  | 'f' => return some (← asFloat .fixed)
  | 'F' => return some (capitals (← asFloat .fixed))
  | 'g' => return some (← asFloat .general)
  | 'G' => return some (capitals (← asFloat .general))
  | letter =>
    if letter = 'd' ∨ letter = 'i' ∨ letter = 'u' then
      let n ← s.wholeOf letter v
      let digits := (← Eval.ofExcept (intText n)).toList
      return some (wholeText n m.precision [] (if n < 0 then digits.drop 1 else digits))
    else return none

/-! ### Marks -/

/-- A text filled up to the width of a mark. -/
def pad (m : Mark) (cs : List Char) : List Char :=
  let fill := List.replicate (m.width.getD 0 - cs.length) ' '
  if m.flags.left then cs ++ fill else fill ++ cs

/-- A number with its sign, filled up to the width of a mark. -/
def padNumber (m : Mark) (cs : List Char) : List Char :=
  let (sign, body) := match cs with
    | '-' :: body => (['-'], body)
    | body => (if m.flags.plus then ['+'] else if m.flags.blank then [' '] else [], body)
  if m.flags.zeros && !m.flags.left then
    let (base, body) := if m.flags.full && ['o', 'x', 'X'].contains m.letter
      then (body.take 2, body.drop 2) else ([], body)
    let zeros := List.replicate (m.width.getD 0 - (sign ++ base ++ body).length) '0'
    sign ++ base ++ zeros ++ body
  else pad m (sign ++ body)

/-- A value as a mark shows it; `place` is the index of its letter. -/
def fillMark (s : Filling) (m : Mark) (place : Nat) (v : Value) : Eval (List Char) := do
  if m.letter = 's' ∨ m.letter = 'r' ∨ m.letter = 'a' then
    let cs ← s.textOf m.letter v
    return pad m (match m.precision with
      | some n => cs.take n
      | none => cs)
  else if m.letter = 'c' then
    return pad m [← s.charOf v]
  else
    match ← s.numberText? m v with
    | some cs => return padNumber m cs
    | none =>
      let shown := if 31 ≤ m.letter.toNat ∧ m.letter.toNat ≤ 126 then m.letter else '?'
      fail .value ("unsupported format character '" ++ String.singleton shown ++ "' (0x" ++
        String.ofList (Nat.toDigits 16 m.letter.toNat) ++ ") at index " ++ toString place)

/-- The element of a key, which has to be there. -/
def valueAt (v : Value) (key : String) : Eval Value := do
  match v with
  | .dict place =>
    match ← reading (findKey? · (.text key) (← dictAt place)) with
    | some found => return found
    | none => fail .key (Text.quotedString key)
  | .undefined message _ => failUndefined message
  | .blocks _ => fail .key (Text.quotedString key)
  | v => failType ((← Eval.typeName v) ++ " indices must be integers or slices, not str")

/-- A number in a mark: one that is written there, or a value. -/
def takeSize (s : Filling) (limit : Nat) (tooBig tooLong : String) (cs : List Char) :
    Eval (Option Int × Filling × List Char) := do
  match cs with
  | '*' :: cs =>
    let (v, s) ← s.next
    match if s.escaping then none else v.integer? with
    | some n =>
      if n.natAbs ≤ limit then return (some n, s, cs) else fail .overflow tooLong
    | none => failType "* wants int"
  | cs =>
    let digits := cs.takeWhile Char.isDigit
    if digits.isEmpty then return (none, s, cs)
    else
      let n := Text.ofDigits 10 (digits.filterMap Text.decimalDigit?)
      if n ≤ limit then return (some n, s, cs.drop digits.length) else fail .value tooBig

/-- Takes a mark from a text after its percent sign, asking for its key. -/
def takeMark (s : Filling) (cs : List Char) : Eval (Mark × Filling × List Char) := do
  let (s, cs) ← match cs with
    | '(' :: cs =>
      match s.keyed with
      | none => failType "format requires a mapping"
      | some mapping =>
        match takeKey 0 cs with
        | none => fail .value "incomplete format key"
        | some (key, rest) =>
          let v ← valueAt mapping (String.ofList key)
          pure ({ s with values := [v] }, rest)
    | cs => pure (s, cs)
  let (flags, cs) := takeFlags {} cs
  let (width, s, cs) ← s.takeSize wordLimit.toNat "width too big"
    "Python int too large to convert to C ssize_t" cs
  -- a width that comes from a value may be negative, which is another way to ask for the left
  let flags := if width.any (· < 0) then { flags with left := true } else flags
  let (precision, s, cs) ← match cs with
    | '.' :: cs => do
      let (n, s, cs) ← s.takeSize (Decimal.twoTo 31 - 1) "precision too big"
        "Python int too large to convert to C int" cs
      pure (some (n.getD 0).toNat, s, cs)
    | cs => pure (none, s, cs)
  -- a size of the number is read and means nothing
  let cs := match cs with
    | c :: rest => if ['h', 'l', 'L'].contains c then rest else cs
    | [] => []
  match cs with
  | [] => fail .value "incomplete format"
  | letter :: rest => return (⟨flags, width.map Int.natAbs, precision, letter⟩, s, rest)

/-- The text with its marks filled in, and what is left; at most `fuel` steps. -/
def fillAll : Nat → Filling → List Char → Eval (List Char × Filling)
  | 0, s, _ => return ([], s)
  | _ + 1, s, [] => return ([], s)
  | fuel + 1, s, '%' :: '%' :: cs => do
    let (more, s) ← fillAll fuel s cs
    return ('%' :: more, s)
  | fuel + 1, s, '%' :: cs => do
    let (m, s, rest) ← s.takeMark cs
    let (v, s) ← s.next
    let piece ← s.fillMark m (s.size - rest.length - 1) v
    let (more, s) ← fillAll fuel s rest
    return (piece ++ more, s)
  | fuel + 1, s, c :: cs => do
    let (more, s) ← fillAll fuel s cs
    return (c :: more, s)

end Filling

namespace Eval

/-- The value can be asked for keys. -/
def isKeyed : Value → Bool
  | .list _ => true
  | .dict _ => true
  | .range _ _ _ => true
  | .blocks _ => true
  | .undefined _ _ => true
  | _ => false

/-- The text with values filled in for its marks: the items of a tuple, or a single value. -/
def fillIn (escaping : Bool) (cs : List Char) (v : Value) : Eval (List Char) := do
  let keyed := if isKeyed v then some v else none
  let s : Filling := ⟨cs.length, escaping, keyed, v.tuple?.getD [v]⟩
  let (filled, s) ← s.fillAll (cs.length + 1) cs
  -- what is asked for keys may hold more than the text asks for
  if keyed.isNone && !s.values.isEmpty then
    failType "not all arguments converted during string formatting"
  return filled

end Eval
end ApiScribe.Template
