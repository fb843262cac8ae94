import ApiScribe.Document.NamedCharacters
import ApiScribe.Text.Blank
import ApiScribe.Text.Casing
import ApiScribe.Text.Quoted

/-!
# Tokens of HTML text

Text is cut into tags, character data and asides (comments, declarations and processing
instructions).  Nothing is an error but a marked section of unknown kind and a reference to a
character by a number of too many digits: what does not form a tag or a reference is character
data.

The text is scanned twice over.  The first pass stops where a construct could go on beyond the end
of what is there; the second pass resumes at that place knowing that nothing follows.  The two
passes differ also after a bare `&#`, which ends a pass.
-/

namespace ApiScribe.Document

/-- A token of HTML text. -/
inductive Token where
  | data (cs : List Char)
  /-- A start tag. -/
  | opening (name : List Char)
  /-- A start tag that ends with a slash. -/
  | closed (name : List Char)
  /-- An end tag. -/
  | ending (name : List Char)
  /-- Data in a character data section. -/
  | section (cs : List Char)
  /-- A comment, declaration or processing instruction. -/
  | aside
  deriving DecidableEq, Repr, Inhabited

/-- Why a text is refused. -/
inductive MarkupFault where
  /-- A marked section is malformed, in the parser's own words. -/
  | section (detail : String)
  /-- A character is referred to by a number of more digits than are converted. -/
  | tooLong (digits : Nat)
  deriving DecidableEq, Repr

/-- How far a construct that starts with a bracket or an ampersand goes. -/
inductive Extent where
  /-- The tokens of the construct, and the text after it. -/
  | complete (tokens : List Token) (rest : List Char)
  /-- The text ends inside the construct. -/
  | incomplete
  | rejected (e : MarkupFault)

/-! ### Start tags -/

/-- The character may stand in the name of a tag. -/
def isTagNamePart (c : Char) : Bool :=
  !(['\t', '\n', '\r', '\x0c', ' ', '/', '>', '\x00'].contains c)

/-- Drops blanks, and slashes that do not end the tag; the first argument is the character before
the text, and the result starts with the character before its rest. -/
def dropSeparators (before : Char) : List Char → Char × List Char
  | [] => (before, [])
  | '/' :: '>' :: cs => (before, '/' :: '>' :: cs)
  | c :: cs => if c = '/' || Text.isBlank c then dropSeparators c cs else (before, c :: cs)

/-- The value of an attribute, the character before the text after it, and that text; `cs` follows
the attribute's name.  An attribute may have no value. -/
def takeValue (before : Char) (cs : List Char) : List Char × Char × List Char :=
  let signs := cs.dropWhile Text.isBlank
  let afterSigns := signs.dropWhile (· == '=')
  let body := afterSigns.dropWhile Text.isBlank
  if signs.head? ≠ some '=' then ([], before, cs)
  else
    let unquoted (before : Char) (cs : List Char) : List Char × Char × List Char :=
      let bare := fun c => c != '>' && !Text.isBlank c
      let value := cs.takeWhile bare
      (value, value.getLast?.getD before, cs.dropWhile bare)
    match body with
    | quote :: quotedText =>
      if quote = '\'' || quote = '"' then
        match quotedText.dropWhile (· != quote) with
        | _ :: rest => (quotedText.takeWhile (· != quote), quote, rest)
        | [] =>
          -- an open quote is no value: the value is empty before blanks, or starts with a sign
          if afterSigns.length ≠ body.length then ([], ' ', body)
          else if (signs.takeWhile (· == '=')).length > 1 then unquoted '=' ('=' :: body)
          else ([], before, cs)
      else unquoted '=' body
    | [] => ([], '=', [])

/-- The values of all attributes and the text after them.  An attribute starts after a blank, a
slash or a quote; there are at most as many as there are characters. -/
def takeAttributes : Nat → Char → List Char → List (List Char) × List Char
  | 0, _, cs => ([], cs)
  | fuel + 1, before, cs =>
    if before = '\'' || before = '"' || before = '/' || Text.isBlank before then
      match cs with
      | [] => ([], [])
      | c :: more =>
        if c = '/' || c = '>' || Text.isBlank c then ([], cs)
        else
          let named := fun c => c != '/' && c != '=' && c != '>' && !Text.isBlank c
          let last := ((more.takeWhile named).getLast?).getD c
          let (value, before, rest) := takeValue last (more.dropWhile named)
          let (before, rest) := dropSeparators before rest
          let (values, rest) := takeAttributes fuel before rest
          (value :: values, rest)
    else ([], cs)

/-- The most digits of a number that refers to a character. -/
def referenceDigits : Nat := 4300

/-- The number of digits of the first reference of an attribute's value that has too many. -/
def longReference? : List Char → Option Nat
  | '&' :: '#' :: cs =>
    let n := (cs.takeWhile Char.isDigit).length
    if referenceDigits < n then some n else longReference? cs
  | _ :: cs => longReference? cs
  | [] => none

/-- A start tag; `cs` is the text after its bracket. -/
def scanStartTag (cs : List Char) : Extent :=
  let name := cs.takeWhile isTagNamePart
  let after := cs.dropWhile isTagNamePart
  let (before, attributes) := dropSeparators (name.getLast?.getD '<') after
  let (values, rest) := takeAttributes attributes.length before attributes
  let checked (tokens : List Token) (rest : List Char) : Extent :=
    match values.findSome? longReference? with
    | some digits => .rejected (.tooLong digits)
    | none => .complete tokens rest
  match rest with
  | '>' :: rest => checked [.opening (Text.lower name)] rest
  | '/' :: '>' :: rest => checked [.closed (Text.lower name)] rest
  | [] => .incomplete
  | c :: rest =>
    if c = '/' || c = '=' || c.isAlpha then .incomplete
    else checked [.data ('<' :: cs.take (cs.length - (rest.length + 1)))] (c :: rest)

/-! ### End tags, comments and declarations -/

/-- The text after the first `>`. -/
def afterBracket? (cs : List Char) : Option (List Char) := (Text.cut? ['>'] cs).map (·.2)

/-- The character may stand in the name of a well-formed end tag. -/
def isEndNamePart (c : Char) : Bool := c.isAlphanum || c == '-' || c == '.' || c == ':' || c == '_'

/-- The name of a well-formed end tag, and the text after the tag; `cs` follows `</`. -/
def properEndTag? (cs : List Char) : Option (List Char × List Char) :=
  match cs.dropWhile Text.isBlank with
  | c :: more =>
    if c.isAlpha then
      match (more.dropWhile isEndNamePart).dropWhile Text.isBlank with
      | '>' :: rest => some (c :: more.takeWhile isEndNamePart, rest)
      | _ => none
    else none
  | [] => none

/-- An end tag; `cs` is the text after `</`. -/
def scanEndTag (cs : List Char) : Extent :=
  match afterBracket? cs with
  | none => .incomplete
  | some afterFirst =>
    match properEndTag? cs with
    | some (name, rest) => .complete [.ending (Text.lower name)] rest
    | none =>
      match cs with
      | '>' :: rest => .complete [] rest
      | c :: _ =>
        if c.isAlpha then .complete [.ending (Text.lower (cs.takeWhile isTagNamePart))] afterFirst
        else .complete [.aside] afterFirst
      | [] => .incomplete

/-- The text after the end of a comment: two hyphens, blanks and a bracket. -/
def afterComment? : List Char → Option (List Char)
  | [] => none
  | '-' :: '-' :: cs =>
    match cs.dropWhile Text.isBlank with
    | '>' :: rest => some rest
    | _ => afterComment? ('-' :: cs)
  | _ :: cs => afterComment? cs

/-- Splits a marked section at its end: `count` closing brackets and `>`, blanks between them. -/
def cutSection? (count : Nat) : List Char → Option (List Char × List Char)
  | [] => none
  | c :: cs =>
    let rec closes : Nat → List Char → Option (List Char)
      | 0, cs => match cs.dropWhile Text.isBlank with
        | '>' :: rest => some rest
        | _ => none
      | n + 1, cs => match cs.dropWhile Text.isBlank with
        | ']' :: rest => closes n rest
        | _ => none
    match if c = ']' then closes (count - 1) cs else none with
    | some rest => some ([], rest)
    | none => (cutSection? count cs).map fun (body, rest) => (c :: body, rest)

/-- The words that start a marked section which ends with two brackets. -/
def sectionWords : List String := ["temp", "cdata", "ignore", "include", "rcdata"]

/-- The words that start a marked section which ends with one bracket. -/
def conditionWords : List String := ["if", "else", "endif"]

/-- The character may stand in the name of a declaration. -/
def isDeclarationPart (c : Char) : Bool := c.isAlphanum || c == '-' || c == '_' || c == '.'

/-- A marked section; `cs` is the text after `<![`. -/
def scanSection (cs : List Char) : Extent :=
  let finish (count : Nat) : Extent :=
    match cutSection? count cs with
    | none => .incomplete
    | some (body, rest) =>
      if Text.startsWith "CDATA[".toList (Text.upper (body.take 6)) then
        .complete [.section (body.drop 6)] rest
      else .complete [.aside] rest
  match cs with
  | [] => .incomplete
  | c :: more =>
    if c.isAlpha then
      let word := c :: more.takeWhile isDeclarationPart
      let after := more.dropWhile isDeclarationPart
      let rest := after.dropWhile Text.isBlank
      let name := String.ofList (Text.lower word)
      if rest.isEmpty then .incomplete
      else if sectionWords.contains name then finish 2
      else if conditionWords.contains name then finish 1
      else
        let shown := Text.quoted (word ++ after.takeWhile Text.isBlank)
        .rejected (.section ("unknown status keyword " ++ String.ofList shown ++
          " in marked section"))
    else
      .rejected (.section ("expected name token at " ++
        String.ofList (Text.quoted (("<![".toList ++ cs).take 20))))

/-- A construct that starts with `<!`; `cs` is the text after it. -/
def scanDeclaration (cs : List Char) : Extent :=
  match cs with
  | '-' :: '-' :: body =>
    match afterComment? body with
    | some rest => .complete [.aside] rest
    | none => .incomplete
  | '[' :: body => scanSection body
  | _ =>
    match afterBracket? cs with
    | some rest => .complete [.aside] rest
    | none => .incomplete

/-- A construct that starts with a bracket; `cs` is the text after it. -/
def scanBracket (cs : List Char) : Extent :=
  match cs with
  | [] => .incomplete
  | '/' :: body => scanEndTag body
  | '!' :: body => scanDeclaration body
  | '?' :: body =>
    match afterBracket? body with
    | some rest => .complete [.aside] rest
    | none => .incomplete
  | c :: _ => if c.isAlpha then scanStartTag cs else .complete [.data ['<']] cs

/-! ### Character references -/

/-- The characters of the Windows-1252 code page from 0x80 on, as code points; zero where the page
has none. -/
def windowsPoints : List Nat :=
  [0x20AC, 0, 0x201A, 0x0192, 0x201E, 0x2026, 0x2020, 0x2021, 0x02C6, 0x2030, 0x0160, 0x2039,
   0x0152, 0, 0x017D, 0, 0, 0x2018, 0x2019, 0x201C, 0x201D, 0x2022, 0x2013, 0x2014, 0x02DC, 0x2122,
   0x0161, 0x203A, 0x0153, 0, 0x017E, 0x0178]

/-- The character of a number: a byte of the code page if it is one, a replacement where there is
no such character. -/
def numberedCharacter (n : Nat) : Char :=
  if 0x80 ≤ n ∧ n < 0xA0 ∧ windowsPoints.getD (n - 0x80) 0 ≠ 0 then
    Char.ofNat (windowsPoints.getD (n - 0x80) 0)
  else if n = 0 ∨ 0x110000 ≤ n ∨ (0xD800 ≤ n ∧ n ≤ 0xDFFF) then '\uFFFD'
  else Char.ofNat n

/-- The character is a hexadecimal digit. -/
def isHexDigit (c : Char) : Bool :=
  c.isDigit || ('a' ≤ c && c ≤ 'f') || ('A' ≤ c && c ≤ 'F')

/-- Drops the semicolon that ends a reference. -/
def dropSemicolon : List Char → List Char
  | ';' :: cs => cs
  | cs => cs

/-- The character of a number in decimal. -/
def decimalCharacter (digits : List Char) : Except MarkupFault Char :=
  if referenceDigits < digits.length then .error (.tooLong digits.length)
  else .ok (numberedCharacter (digits.foldl (fun n c => 10 * n + (c.toNat - 48)) 0))

/-- A numeric reference; `cs` is the text after `&#`.  The digits must be followed by something
that is no digit. -/
def numericReference? (cs : List Char) : Option (Except MarkupFault Char × List Char) :=
  match cs with
  | [] => none
  | c :: more =>
    if c = 'x' ∨ c = 'X' then
      let digits := more.takeWhile isHexDigit
      match more.dropWhile isHexDigit with
      | [] => none
      | rest =>
        if digits.isEmpty then none
        else some (.ok (numberedCharacter (Text.hexValue digits)), dropSemicolon rest)
    else
      let digits := cs.takeWhile Char.isDigit
      match cs.dropWhile Char.isDigit with
      | [] => none
      | d :: rest =>
        if digits.isEmpty || isHexDigit d then none
        else some (decimalCharacter digits, dropSemicolon (d :: rest))

/-- The character may stand in the name of a reference. -/
def isReferencePart (c : Char) : Bool := c.isAlphanum || c == '-' || c == '.'

/-- The name of a named reference, and the text after the name; `cs` is the text after `&`.  A name
that reaches the end of the text is cut at its last hyphen or point. -/
def referenceName? (cs : List Char) : Option (List Char × List Char) :=
  match cs with
  | [] => none
  | c :: _ =>
    if !c.isAlpha then none
    else
      let name := cs.takeWhile isReferencePart
      match cs.dropWhile isReferencePart with
      | d :: rest => some (name, d :: rest)
      | [] =>
        match name.reverse.dropWhile Char.isAlphanum with
        | mark :: kept =>
          some (kept.reverse, mark :: (name.reverse.takeWhile Char.isAlphanum).reverse)
        | [] => none

/-- The text of a named reference; an unknown name stands for itself. -/
def namedText (name : List Char) : List Char := (namedCharacter? name).getD ('&' :: name)

/-! ### Scanning -/

/-- Where a pass stops: the tokens before, the text not yet scanned, and the element whose raw text
is being read. -/
structure Stop where
  tokens : List Token
  rest : List Char
  raw : Option (List Char)

/-- The elements whose content is raw text. -/
def rawElements : List (List Char) := ["script".toList, "style".toList]

/-- The raw text before the end tag of an element, and the text from that tag on. -/
def rawText? (name : List Char) : List Char → Option (List Char × List Char)
  | [] => none
  | c :: cs =>
    match c, cs with
    | '<', '/' :: body =>
      match properEndTag? body with
      | some (n, _) =>
        if Text.lower n = name then some ([], c :: cs)
        else (rawText? name cs).map fun (before, rest) => (c :: before, rest)
      | none => (rawText? name cs).map fun (before, rest) => (c :: before, rest)
    | _, _ => (rawText? name cs).map fun (before, rest) => (c :: before, rest)

/-- The character data at the start of a text, as a token if there is any. -/
def dataTokens (cs : List Char) : List Token := if cs.isEmpty then [] else [.data cs]

/-- Where the text is cut when a construct is incomplete and nothing follows: after the next
bracket, or before the next tag, or after one character. -/
def cutIncomplete (cs : List Char) : List Char × List Char :=
  match cs with
  | [] => ([], [])
  | c :: more =>
    match Text.cut? ['>'] more with
    | some (before, rest) => (c :: (before ++ ['>']), rest)
    | none =>
      if more.contains '<' then (c :: more.takeWhile (· != '<'), more.dropWhile (· != '<'))
      else ([c], more)

/-- The element whose raw text follows the tokens of a start tag. -/
def rawAfter (tokens : List Token) : Option (List Char) :=
  match tokens with
  | [.opening name] => if rawElements.contains name then some name else none
  | _ => none

/-- One pass over the text; `final` is set when nothing follows it.  Every step takes at least one
character. -/
def scan (final : Bool) : Nat → Option (List Char) → List Char → Except MarkupFault Stop
  | 0, raw, cs => .ok ⟨[], cs, raw⟩
  | _ + 1, raw, [] => .ok ⟨[], [], raw⟩
  | fuel + 1, some name, cs =>
    match rawText? name cs with
    | none => .ok ⟨[], cs, some name⟩
    | some (before, rest) =>
      match scanBracket (rest.drop 1) with
      | .complete tokens rest =>
        (scan final fuel none rest).map fun s =>
          { s with tokens := dataTokens before ++ tokens ++ s.tokens }
      | _ => .ok ⟨dataTokens before, rest, some name⟩
  | fuel + 1, none, c :: cs =>
    let continueWith (tokens : List Token) (rest : List Char) : Except MarkupFault Stop :=
      (scan final fuel (rawAfter tokens) rest).map fun s => { s with tokens := tokens ++ s.tokens }
    let stop (tokens : List Token) (rest : List Char) : Except MarkupFault Stop :=
      .ok ⟨tokens, rest, none⟩
    if c = '<' then
      match scanBracket cs with
      | .complete tokens rest => continueWith tokens rest
      | .rejected e => .error e
      | .incomplete =>
        if final && !cs.isEmpty then
          let (before, rest) := cutIncomplete (c :: cs)
          continueWith [.data before] rest
        else stop [] (c :: cs)
    else if c = '&' then
      match cs with
      | '#' :: body =>
        match numericReference? body with
        | some (.ok d, rest) => continueWith [.data [d]] rest
        | some (.error e, _) => .error e
        | none =>
          if body.contains ';' then stop [.data ['&', '#']] body else stop [] (c :: cs)
      | _ =>
        match referenceName? cs with
        | some (name, rest) => continueWith [.data (namedText name)] (dropSemicolon rest)
        | none =>
          match cs with
          | [] => stop [] [c]
          | d :: more =>
            if d.isAlpha then
              -- a lone letter after the sign loses the sign
              if final && more.isEmpty then stop [] [d] else stop [] (c :: cs)
            else continueWith [.data ['&']] cs
    else
      let plain := fun c => c != '<' && c != '&'
      continueWith [.data ((c :: cs).takeWhile plain)] ((c :: cs).dropWhile plain)

/-- The tokens of a text.  What the second pass leaves is character data, except in raw text that
has no end, which is dropped. -/
def tokenize (cs : List Char) : Except MarkupFault (List Token) :=
  match scan false (cs.length + 1) none cs with
  | .error e => .error e
  | .ok first =>
    match scan true (first.rest.length + 1) first.raw first.rest with
    | .error e => .error e
    | .ok second =>
      .ok (first.tokens ++ second.tokens ++
        if second.raw.isNone then dataTokens second.rest else [])

end ApiScribe.Document
