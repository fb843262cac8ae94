import ApiScribe.Text.Utf8
import ApiScribe.Yaml.Token

/-!
# The text of scalars

The three ways to write a scalar: plain, in quotes, and as a block of lines.  Each function takes
the text from the scalar on and returns its content with the text after it.
-/

namespace ApiScribe.Yaml

/-- The character ends a line. -/
def isBreak (c : Char) : Bool := ['\r', '\n', '\x85', '\u2028', '\u2029'].contains c

/-- The character is a blank or a tab. -/
def isBlank (c : Char) : Bool := c == ' ' || c == '\t'

/-- The character is a blank, a tab or a line end. -/
def isGap (c : Char) : Bool := isBlank c || isBreak c

/-- The text is at its end, at a blank or at a line end. -/
def atGap (cs : List Char) : Bool := cs.head?.all isGap

/-- The text is at its end or at the end of a line. -/
def atLineEnd (cs : List Char) : Bool := cs.head?.all isBreak

/-- The character that a line end stands for, and the text after it. -/
def lineBreak? : List Char → Option (Char × List Char)
  | '\r' :: '\n' :: cs => some ('\n', cs)
  | c :: cs =>
    if c == '\r' || c == '\n' || c == '\x85' then some ('\n', cs)
    else if isBreak c then some (c, cs) else none
  | [] => none

/-- The text is at three hyphens or points that mark the start or end of a document. -/
def atDocumentMark : List Char → Bool
  | '-' :: '-' :: '-' :: cs => atGap cs
  | '.' :: '.' :: '.' :: cs => atGap cs
  | _ => false

/-! ### Scalars in quotes -/

/-- What a backslash and a character stand for. -/
def escape? (c : Char) : Option Char :=
  match c with
  | '0' => some '\x00'
  | 'a' => some '\x07'
  | 'b' => some '\x08'
  | 't' => some '\t'
  | '\t' => some '\t'
  | 'n' => some '\n'
  | 'v' => some '\x0b'
  | 'f' => some '\x0c'
  | 'r' => some '\r'
  | 'e' => some '\x1b'
  | ' ' => some ' '
  | '"' => some '"'
  | '\\' => some '\\'
  | '/' => some '/'
  | 'N' => some '\x85'
  | '_' => some '\xa0'
  | 'L' => some '\u2028'
  | 'P' => some '\u2029'
  | _ => none

/-- The number of hexadecimal digits after a letter. -/
def escapeWidth? (c : Char) : Option Nat :=
  match c with
  | 'x' => some 2
  | 'u' => some 4
  | 'U' => some 8
  | _ => none

/-- The number written by hexadecimal digits. -/
def hexNumber? (digits : List Char) : Option Nat :=
  digits.foldl (fun n c => do
    let n ← n
    if c.isDigit then return 16 * n + (c.toNat - 48)
    else if 'a' ≤ c ∧ c ≤ 'f' then return 16 * n + (c.toNat - 87)
    else if 'A' ≤ c ∧ c ≤ 'F' then return 16 * n + (c.toNat - 55)
    else none) (some 0)

/-- The line ends and leading blanks of the lines before the next text of a scalar in quotes. -/
def quotedBreaks : Nat → List Char → Except Error (List Char × List Char)
  | 0, cs => .ok ([], cs)
  | fuel + 1, cs =>
    if atDocumentMark cs then .error .malformed
    else
      let cs := cs.dropWhile isBlank
      match lineBreak? cs with
      | some (c, rest) => (quotedBreaks fuel rest).map fun (breaks, rest) => (c :: breaks, rest)
      | none => .ok ([], cs)

/-- Puts code points before a content. -/
def before (points : List Nat) (r : List Nat × List Char) : List Nat × List Char :=
  (points ++ r.1, r.2)

/-- The code points of characters. -/
def codePoints (cs : List Char) : List Nat := cs.map Char.toNat

/-- The code point that an escape spells. -/
def escaped (n : Nat) : Except Error Nat :=
  if 0x110000 ≤ n then .error (.value .codePointOutOfRange) else .ok n

/-- The content of a scalar in quotes, from after the opening quote; every step takes a character.
Two escapes that spell the halves of a surrogate pair are two code points. -/
def quoted (double : Bool) : Nat → List Char → Except Error (List Nat × List Char)
  | 0, _ => .error .malformed
  | _ + 1, [] => .error .malformed
  | fuel + 1, c :: cs =>
    if isGap c then
      let blanks := (c :: cs).takeWhile isBlank
      let rest := (c :: cs).dropWhile isBlank
      match lineBreak? rest with
      | none => (quoted double fuel rest).map (before (codePoints blanks))
      | some (lineEnd, rest) => do
        let (breaks, rest) ← quotedBreaks rest.length.succ rest
        let joint := if lineEnd ≠ '\n' then [lineEnd] else if breaks.isEmpty then [' '] else []
        (quoted double fuel rest).map (before (codePoints (joint ++ breaks)))
    else if !double then
      match c, cs with
      | '\'', '\'' :: rest => (quoted double fuel rest).map (before [0x27])
      | '\'', rest => .ok ([], rest)
      | _, rest => (quoted double fuel rest).map (before [c.toNat])
    else if c == '"' then .ok ([], cs)
    else if c == '\\' then
      match cs with
      | [] => .error .malformed
      | e :: rest =>
        match escape? e with
        | some d => (quoted double fuel rest).map (before [d.toNat])
        | none =>
          match escapeWidth? e with
          | some width =>
            let digits := rest.take width
            match if digits.length = width then hexNumber? digits else none with
            | none => .error .malformed
            | some n => do
              let point ← escaped n
              (quoted double fuel (rest.drop width)).map (before [point])
          | none =>
            match lineBreak? (e :: rest) with
            | some (_, rest) => do
              let (breaks, rest) ← quotedBreaks rest.length.succ rest
              (quoted double fuel rest).map (before (codePoints breaks))
            | none => .error .malformed
    else (quoted double fuel cs).map (before [c.toNat])

/-- A quote ends the content. -/
theorem quoted_quote (fuel : Nat) (rest : List Char) :
    quoted true (fuel + 1) ('"' :: rest) = .ok ([], rest) := by
  have hgap : isGap '"' = false := by decide
  simp [quoted, hgap]

/-! ### Plain scalars -/

/-- The character ends a plain scalar inside brackets. -/
def isFlowMark (c : Char) : Bool := [',', '?', '[', ']', '{', '}'].contains c

/-- A colon that ends a plain scalar is followed by a gap, or inside brackets by a mark. -/
def colonEnds (flow : Bool) (after : List Char) : Bool :=
  atGap after || (flow && after.head?.any fun c => [',', '[', ']', '{', '}'].contains c)

/-- The longest piece of a plain scalar without gaps. -/
def plainPiece (flow : Bool) : List Char → List Char × List Char
  | [] => ([], [])
  | c :: cs =>
    if isGap c || (c == ':' && colonEnds flow cs) || (flow && isFlowMark c) then ([], c :: cs)
    else
      let (piece, rest) := plainPiece flow cs
      (c :: piece, rest)

/-- A gap inside, or after, a plain scalar. -/
structure PlainGap where
  /-- What the gap counts for in the content; nothing if the scalar ends before it. -/
  content : List Char
  rest : List Char
  /-- The gap reaches another line. -/
  broken : Bool
  /-- The number of blanks at the end of the gap. -/
  column : Nat

/-- The further empty lines of a gap, with the blanks before the text that ends it; `none` before a
document mark. -/
def plainBreaks : Nat → Nat → List Char → Option (List Char) × Nat × List Char
  | 0, column, cs => (some [], column, cs)
  | fuel + 1, column, cs =>
    match cs with
    | ' ' :: rest => plainBreaks fuel (column + 1) rest
    | _ =>
      match lineBreak? cs with
      | some (c, rest) =>
        if atDocumentMark rest then (none, 0, rest)
        else
          let (breaks, column, rest) := plainBreaks fuel 0 rest
          (breaks.map (c :: ·), column, rest)
      | none => (some [], column, cs)

/-- The gap after a piece of a plain scalar. -/
def plainGap (cs : List Char) : PlainGap :=
  let blanks := cs.takeWhile (· == ' ')
  let rest := cs.dropWhile (· == ' ')
  match lineBreak? rest with
  | none => ⟨blanks, rest, false, blanks.length⟩
  | some (lineEnd, rest) =>
    if atDocumentMark rest then ⟨[], rest, true, 0⟩
    else
      match plainBreaks rest.length.succ 0 rest with
      | (none, column, rest) => ⟨[], rest, true, column⟩
      | (some breaks, column, rest) =>
        let joint := if lineEnd ≠ '\n' then [lineEnd] else if breaks.isEmpty then [' '] else []
        ⟨joint ++ breaks, rest, true, column⟩

/-- The content of a plain scalar, the text after it and the blanks that follow it, and whether
that text is on another line.  Outside brackets the scalar goes on only in lines that are indented
by at least `indent`. -/
def plain (flow : Bool) (indent : Int) : Nat → List Char → List Char × List Char × Bool
  | 0, cs => ([], cs, false)
  | fuel + 1, cs =>
    match cs with
    | '#' :: _ => ([], cs, false)
    | _ =>
      let (piece, rest) := plainPiece flow cs
      if piece.isEmpty then ([], cs, false)
      else
        let gap := plainGap rest
        if gap.content.isEmpty || gap.rest.head? == some '#' ||
            (!flow && gap.broken && gap.column < indent) then
          (piece, gap.rest, gap.broken)
        else
          let (content, rest, broken) := plain flow indent fuel gap.rest
          -- a gap counts only when more of the scalar follows it
          if content.isEmpty then (piece, rest, gap.broken)
          else (piece ++ gap.content ++ content, rest, broken)

/-! ### Block scalars -/

/-- What becomes of the line ends after a block scalar. -/
inductive Chomping where
  | strip
  | clip
  | keep
  deriving DecidableEq, Repr

/-- The indicators after the mark of a block scalar. -/
structure BlockHeader where
  chomping : Chomping
  indentation : Option Nat

/-- A sign that says how to chomp. -/
def chompingSign? : Char → Option Chomping
  | '+' => some .keep
  | '-' => some .strip
  | _ => none

/-- Indentation digits from one to nine. -/
def indentationDigit? (cs : List Char) : Except Error (Option Nat × List Char) :=
  match cs with
  | [] => .ok (none, cs)
  | c :: rest =>
    if c == '0' then .error .malformed
    else if c.isDigit then .ok (some (c.toNat - 48), rest) else .ok (none, cs)

/-- The header of a block scalar, up to the end of its line. -/
def blockHeader (cs : List Char) : Except Error (BlockHeader × List Char) := do
  let (header, rest) ← match cs.head?.bind chompingSign? with
    | some chomping => do
      let (indentation, rest) ← indentationDigit? (cs.drop 1)
      pure (BlockHeader.mk chomping indentation, rest)
    | none => do
      let (indentation, rest) ← indentationDigit? cs
      match indentation, rest.head?.bind chompingSign? with
      | some n, some chomping => pure (BlockHeader.mk chomping (some n), rest.drop 1)
      | _, _ => pure (BlockHeader.mk .clip indentation, rest)
  if !(rest.head?.all fun c => c == ' ' || isBreak c) then .error .malformed
  else
    let rest := rest.dropWhile (· == ' ')
    let rest := if rest.head? == some '#' then rest.dropWhile (!isBreak ·) else rest
    if !atLineEnd rest then .error .malformed
    else .ok (header, match lineBreak? rest with
      | some (_, rest) => rest
      | none => rest)

/-- The empty lines before the first text of a block scalar whose indentation is not given: their
ends, the largest number of blanks on a line, the blanks before the text, and the text. -/
def leadingLines : Nat → Nat → Nat → List Char → List Char × Nat × Nat × List Char
  | 0, most, column, cs => ([], most, column, cs)
  | fuel + 1, most, column, cs =>
    match cs with
    | ' ' :: rest => leadingLines fuel (max most (column + 1)) (column + 1) rest
    | _ =>
      match lineBreak? cs with
      | some (c, rest) =>
        let (breaks, most, column, rest) := leadingLines fuel most 0 rest
        (c :: breaks, most, column, rest)
      | none => ([], most, column, cs)

/-- Drops at most `count` blanks, and tells how many. -/
def dropBlanks : Nat → List Char → Nat × List Char
  | 0, cs => (0, cs)
  | count + 1, cs =>
    match cs with
    | ' ' :: rest => let (n, rest) := dropBlanks count rest; (n + 1, rest)
    | _ => (0, cs)

/-- The empty lines between lines of a block scalar: their ends, the blanks before the next text,
and that text. -/
def emptyLines (indent : Nat) : Nat → List Char → List Char × Nat × List Char
  | 0, cs => ([], 0, cs)
  | fuel + 1, cs =>
    let (column, rest) := dropBlanks indent cs
    match lineBreak? rest with
    | some (c, rest) =>
      let (breaks, column, rest) := emptyLines indent fuel rest
      (c :: breaks, column, rest)
    | none => ([], column, rest)

/-- The lines of a block scalar; `breaks` are the ends of the empty lines before the first.  The
result is the content without the ends of the last line and of the empty lines after it, then
these ends, and the text after the scalar. -/
def blockLines (folded : Bool) (indent : Nat) :
    Nat → List Char → List Char → List Char × List Char × List Char × List Char
  | 0, breaks, cs => (breaks, [], [], cs)
  | fuel + 1, breaks, cs =>
    let line := cs.takeWhile (!isBreak ·)
    let after := cs.dropWhile (!isBreak ·)
    let (lineEnd, rest) := match lineBreak? after with
      | some (c, rest) => ([c], rest)
      | none => ([], after)
    let startsBlank (cs : List Char) : Bool := cs.head?.any isBlank
    let (empty, column, rest) := emptyLines indent rest.length.succ rest
    if column = indent && !rest.isEmpty then
      let joint :=
        if folded && lineEnd == ['\n'] && !startsBlank cs && !startsBlank rest then
          if empty.isEmpty then [' '] else []
        else lineEnd
      let (content, lastEnd, empty, rest) := blockLines folded indent fuel empty rest
      (breaks ++ line ++ joint ++ content, lastEnd, empty, rest)
    else (breaks ++ line, lineEnd, empty, rest)

/-- The content of a block scalar, from after its mark; `indent` is the indentation of the
collection around it. -/
def block (folded : Bool) (indent : Int) (cs : List Char) :
    Except Error (List Char × List Char) := do
  let (header, rest) ← blockHeader cs
  let least := (indent + 1).toNat.max 1
  let (width, breaks, column, rest) := match header.indentation with
    | none =>
      let (breaks, most, column, rest) := leadingLines rest.length.succ 0 0 rest
      (least.max most, breaks, column, rest)
    | some n =>
      let width := least + n - 1
      let (breaks, column, rest) := emptyLines width rest.length.succ rest
      (width, breaks, column, rest)
  let (content, lastEnd, empty, rest) :=
    if column = width && !rest.isEmpty then blockLines folded width rest.length.succ breaks rest
    else ([], [], breaks, rest)
  return (match header.chomping with
    | .strip => content
    | .clip => content ++ lastEnd
    | .keep => content ++ lastEnd ++ empty, rest)

end ApiScribe.Yaml
