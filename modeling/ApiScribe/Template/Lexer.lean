import ApiScribe.Template.Literal
import ApiScribe.Template.Token
import ApiScribe.Text.Letter
import ApiScribe.Text.Utf8

/-!
# From text to tokens

Outside of tags everything is text up to the next tag.  A hyphen just inside a tag takes the blanks
next to it away.  Comments leave nothing behind, and the text between `raw` and `endraw` is text
whatever it looks like.  A closing mark counts only when the brackets inside the tag are balanced;
before that its characters are operators.
-/

namespace ApiScribe.Template.Lexer

open Text

/-- The text before the next tag, the second character of the tag and what follows it. -/
def cutTag : List Char → Option (List Char × Char × List Char)
  | [] => none
  | [_] => none
  | c :: d :: cs =>
    if c = '\x7b' ∧ (d = '\x7b' ∨ d = '%' ∨ d = '#') then some ([], d, cs)
    else (cutTag (d :: cs)).map fun (before, mark, after) => (c :: before, mark, after)

/-- An optional hyphen or plus sign. -/
def stripSign : List Char → Option Char × List Char
  | '-' :: cs => (some '-', cs)
  | '+' :: cs => (some '+', cs)
  | cs => (none, cs)

/-- The text without blanks at its end. -/
def trimEnd (cs : List Char) : List Char := (cs.reverse.dropWhile isBlank).reverse

/-- The text without blanks at its start. -/
def trimStart (cs : List Char) : List Char := cs.dropWhile isBlank

/-- The text before a tag; a hyphen in the tag takes its last blanks away. -/
def textBefore (sign : Option Char) (before : List Char) : List Char :=
  if sign = some '-' then trimEnd before else before

/-- What follows a closing mark, which may have a hyphen or, where one is allowed, a plus sign. -/
def close? (mark : List Char) (plus : Bool) (cs : List Char) : Option (List Char) :=
  match stripSign cs with
  | (some '-', rest) => (dropLead? mark rest).map trimStart
  | (some _, rest) => if plus then dropLead? mark rest else none
  | (none, rest) => dropLead? mark rest

/-- What follows a block that consists of the given word. -/
def wordBlock? (word : List Char) (plus : Bool) (cs : List Char) : Option (List Char) := do
  let rest ← dropLead? word (trimStart cs)
  close? ['%', '\x7d'] plus (trimStart rest)

/-- The text of a comment up to its end, and what follows. -/
def comment? : List Char → Option (List Char × List Char)
  | [] => none
  | c :: cs =>
    match close? ['#', '\x7d'] true (c :: cs) with
    | some rest => some ([], rest)
    | none => (comment? cs).map fun (text, rest) => (c :: text, rest)

/-- The end tag of a raw section: its sign, and what follows it. -/
def rawEnd? (cs : List Char) : Option (Option Char × List Char) := do
  let body ← dropLead? ['\x7b', '%'] cs
  let (sign, body) := stripSign body
  let rest ← wordBlock? "endraw".toList true body
  some (sign, rest)

/-- The text of a raw section up to its end, the sign of the end tag and what follows. -/
def raw? : List Char → Option ((List Char × Option Char) × List Char)
  | [] => none
  | c :: cs =>
    match rawEnd? (c :: cs) with
    | some (sign, rest) => some (([], sign), rest)
    | none => (raw? cs).map fun ((text, sign), rest) => ((c :: text, sign), rest)

/-- The operators and brackets of two characters. -/
def doubleSigns : List String := ["//", "**", "==", "!=", ">=", "<="]

/-- The operators and brackets of one character. -/
def singleSigns : List Char := "+-/*%~[]()\x7b\x7d><=.:|,;".toList

/-- An operator, a bracket or a separator. -/
def sign? : List Char → Option (String × List Char)
  | [] => none
  | c :: cs =>
    let double := String.ofList (c :: cs.take 1)
    if doubleSigns.contains double then some (double, cs.drop 1)
    else if singleSigns.contains c then some (String.singleton c, cs) else none

/-- The bracket that closes an opening one. -/
def closing? (symbol : String) : Option String :=
  match symbol with
  | "(" => some ")"
  | "[" => some "]"
  | "\x7b" => some "\x7d"
  | _ => none

/-- The brackets that are open after a sign; the innermost one comes first. -/
def brackets (opened : List String) (symbol : String) : Except String (List String) :=
  match closing? symbol with
  | some close => .ok (close :: opened)
  | none =>
    if symbol = ")" ∨ symbol = "]" ∨ symbol = "\x7d" then
      match opened with
      | [] => .error ("unexpected '" ++ symbol ++ "'")
      | expected :: outer =>
        if expected = symbol then .ok outer
        else .error ("unexpected '" ++ symbol ++ "', expected '" ++ expected ++ "'")
    else .ok opened

/-- Where the text is read: outside of tags, or in one that ends with the given token. -/
inductive Mode where
  | text
  | tag (ending : Lexeme)

/-- The characters that close a tag. -/
def closeMark : Lexeme → List Char
  | .printEnd => ['\x7d', '\x7d']
  | _ => ['%', '\x7d']

/-- The end of a tag, and what follows. -/
def tagEnd? (ending : Lexeme) (cs : List Char) : Option (List Char) :=
  match ending with
  | .printEnd => close? (closeMark ending) false cs
  | _ => close? (closeMark ending) true cs

/-- A piece of text as a token, unless it is empty. -/
def dataToken (line : Nat) (cs : List Char) : List Token :=
  if cs.isEmpty then [] else [⟨line, .data (String.ofList cs)⟩]

/-- The number of line ends in the part of `cs` before `rest`. -/
def linesTo (cs rest : List Char) : Nat := (cs.take (cs.length - rest.length)).count '\n'

/-- The number of decimal digits of the integer in the part of `cs` before `rest`; digits in
another base do not count. -/
def decimalDigits (cs rest : List Char) : Nat :=
  let written := withoutGaps (cs.take (cs.length - rest.length))
  if written.all Char.isDigit then written.length else 0

/-- The lexeme at the start of a tag's content, which is neither a blank nor a sign. -/
def word? (line : Nat) (afterPoint : Bool) (cs : List Char) :
    Option (Except Refusal Lexeme × List Char) :=
  match if afterPoint then none else float? cs with
  | some (x, rest) => some (.ok (.float x), rest)
  | none =>
    match integer? cs with
    | some (n, rest) =>
      let digits := decimalDigits cs rest
      some (if digitLimit < digits then .error (.failed (.integerTooLong digits))
        else .ok (.integer n), rest)
    | none =>
      let word := cs.takeWhile isWordPart
      if !word.isEmpty then
        some (if isIdentifier word then .ok (.name (String.ofList word))
          else .error (.at line "Invalid character in identifier"), cs.drop word.length)
      else
        match cs with
        | quote :: body =>
          if quote == '\'' || quote == '"' then
            (quotedBody quote body).map fun (text, rest) =>
              (match unescape text.length text with
                | .ok t => .ok (.text (String.ofList t))
                | .error message => .error (.at line message), rest)
          else none
        | [] => none

/-- The tokens from a place on.  `size` is the length of the whole text; `opened` are the brackets
that are open in the tag, and `afterPoint` tells that a point was just read. -/
def run (size : Nat) : Nat → Mode → Nat → List String → Bool → List Char → Tokens
  | 0, _, _, _, _, _ => ⟨[], none⟩
  | fuel + 1, .text, line, _, _, cs =>
    match cutTag cs with
    | none => ⟨dataToken line cs, none⟩
    | some (before, mark, after) =>
      let (sign, body) := stripSign after
      let tagLine := line + before.count '\n'
      let data := dataToken line (textBefore sign before)
      let following (t : Tokens) (items : List Token) : Tokens :=
        ⟨data ++ items ++ t.items, t.fault⟩
      if mark = '#' then
        match comment? body with
        | some (_, rest) =>
          following (run size fuel .text (tagLine + linesTo body rest) [] false rest) []
        | none =>
          ⟨data, if body.isEmpty then none else some (.at tagLine "Missing end of comment tag")⟩
      else if mark = '\x7b' then
        following (run size fuel (.tag .printEnd) tagLine [] false body) [⟨tagLine, .printBegin⟩]
      else
        match wordBlock? "raw".toList false body with
        | none =>
          following (run size fuel (.tag .blockEnd) tagLine [] false body) [⟨tagLine, .blockBegin⟩]
        | some inside =>
          let rawLine := tagLine + linesTo body inside
          match raw? inside with
          | some ((text, sign), rest) =>
            following (run size fuel .text (rawLine + linesTo inside rest) [] false rest)
              (dataToken rawLine (textBefore sign text))
          | none =>
            ⟨data, if inside.isEmpty then none
              else some (.at rawLine "Missing end of raw directive")⟩
  | _ + 1, .tag _, _, _, _, [] => ⟨[], none⟩
  | fuel + 1, .tag ending, line, opened, afterPoint, c :: cs =>
    let fail (message : String) : Tokens := ⟨[], some (.at line message)⟩
    match if opened.isEmpty then tagEnd? ending (c :: cs) else none with
    | some rest =>
      let t := run size fuel .text (line + linesTo (c :: cs) rest) [] false rest
      ⟨⟨line, ending⟩ :: t.items, t.fault⟩
    | none =>
      if isBlank c then
        run size fuel (.tag ending) (if c = '\n' then line + 1 else line) opened false cs
      else
        match word? line afterPoint (c :: cs) with
        | some (.error refusal, _) => ⟨[], some refusal⟩
        | some (.ok lexeme, rest) =>
          let t := run size fuel (.tag ending) (line + linesTo (c :: cs) rest) opened false rest
          ⟨⟨line, lexeme⟩ :: t.items, t.fault⟩
        | none =>
          match sign? (c :: cs) with
          | none =>
            fail ("unexpected char " ++ String.ofList (quoted [c]) ++ " at " ++
              toString (size - (cs.length + 1)))
          | some (symbol, rest) =>
            match brackets opened symbol with
            | .error message => fail message
            | .ok opened =>
              let t := run size fuel (.tag ending) line opened (symbol == ".") rest
              ⟨⟨line, .sign symbol⟩ :: t.items, t.fault⟩

/-- The text with its line ends made alike; without a last one, unless it is to be kept. -/
def normalize (keepLastLineEnd : Bool) (source : List Char) : List Char :=
  let text := unifyLineEnds source
  if keepLastLineEnd then text
  else match text.reverse with
    | '\n' :: before => before.reverse
    | _ => text

end ApiScribe.Template.Lexer

namespace ApiScribe.Template

/-- The tokens of a template. -/
def tokenize (keepLastLineEnd : Bool) (source : List Char) : Tokens :=
  let text := Lexer.normalize keepLastLineEnd source
  -- every step takes a character
  Lexer.run text.length source.length.succ .text 1 [] false text

end ApiScribe.Template
