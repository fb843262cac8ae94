import ApiScribe.Yaml.Scalar

/-!
# From text to tokens

Outside brackets, indentation starts and ends collections.  A key needs no indicator: whatever may
be one is remembered, and when a colon follows on the same line, within 1024 characters, a `key`
token is put in front of it after the fact.
-/

namespace ApiScribe.Yaml

/-- A token that may turn out to be a key: its number among all tokens, whether it has to be one,
and its place. -/
structure PossibleKey where
  number : Nat
  required : Bool
  index : Nat
  line : Nat
  column : Nat

/-- The state of scanning. -/
structure Scanner where
  rest : List Char
  index : Nat
  line : Nat
  column : Nat
  /-- The number of open brackets. -/
  flowLevel : Nat
  /-- The indentation of the innermost block collection. -/
  indent : Int
  /-- The indentations of the collections around it. -/
  indents : List Int
  /-- A key may start here. -/
  allowKey : Bool
  /-- The possible key of each level of brackets. -/
  keys : List (Nat × PossibleKey)
  /-- The tokens so far, last one first. -/
  tokens : List Token

namespace Scanner

/-- Before the first character. -/
def start (text : List Char) : Scanner := ⟨text, 0, 0, 0, 0, -1, [], true, [], []⟩

/-- Moves over characters. -/
def forward : Nat → Scanner → Scanner
  | 0, s => s
  | n + 1, s =>
    match s.rest with
    | [] => s
    | c :: rest =>
      let s := { s with rest := rest, index := s.index + 1 }
      -- a pair of carriage return and line feed is one line end
      let breaks := isBreak c && !(c == '\r' && rest.head? == some '\n')
      forward n (if breaks then { s with line := s.line + 1, column := 0 }
        else if c == '\uFEFF' then s else { s with column := s.column + 1 })

/-- Moves to the given end of the text. -/
def moveTo (s : Scanner) (rest : List Char) : Scanner := forward (s.rest.length - rest.length) s

/-- Adds a token. -/
def emit (s : Scanner) (t : Token) : Scanner := { s with tokens := t :: s.tokens }

/-- Inserts a token as the one of the given number. -/
def insertAt (s : Scanner) (number : Nat) (t : Token) : Scanner :=
  let later := s.tokens.length - number
  { s with tokens := s.tokens.take later ++ t :: s.tokens.drop later }

/-- Is inside brackets. -/
def inFlow (s : Scanner) : Bool := s.flowLevel != 0

/-! ### Keys without an indicator -/

/-- Forgets possible keys that the place has left behind. -/
def dropStaleKeys (s : Scanner) : Except Error Scanner :=
  let stale := fun (k : PossibleKey) => k.line != s.line || s.index - k.index > 1024
  if s.keys.any fun (_, k) => stale k && k.required then .error .malformed
  else .ok { s with keys := s.keys.filter fun (_, k) => !stale k }

/-- Forgets the possible key of this level of brackets. -/
def dropKey (s : Scanner) : Except Error Scanner :=
  match s.keys.lookup s.flowLevel with
  | some k =>
    if k.required then .error .malformed
    else .ok { s with keys := s.keys.filter fun (level, _) => level != s.flowLevel }
  | none => .ok s

/-- Remembers that the next token may be a key. -/
def saveKey (s : Scanner) : Except Error Scanner :=
  if s.allowKey then do
    -- at the indentation of the mapping there can be nothing but a key
    let required := !s.inFlow && s.indent == s.column
    let s ← s.dropKey
    return { s with
      keys := (s.flowLevel, ⟨s.tokens.length, required, s.index, s.line, s.column⟩) :: s.keys }
  else .ok s

/-! ### Indentation -/

/-- Ends the block collections that are indented further than the column. -/
def unwind (s : Scanner) (column : Int) : Scanner :=
  if s.inFlow then s else go s.indents s
where
  /-- Ends collections as long as there are some around them. -/
  go : List Int → Scanner → Scanner
    | [], s => if s.indent > column then { s with indent := -1 }.emit .blockEnd else s
    | outer :: more, s =>
      if s.indent > column then
        go more ({ s with indent := outer, indents := more }.emit .blockEnd)
      else s

/-- Whether a collection at the column is a new one. -/
def opens (s : Scanner) (column : Nat) : Bool := s.indent < column

/-- Starts a block collection at the column. -/
def deepen (s : Scanner) (column : Nat) : Scanner :=
  { s with indents := s.indent :: s.indents, indent := column }

/-! ### Blanks, comments and directives -/

/-- Skips blanks, comments and line ends up to the next token. -/
def skipGap : Nat → Scanner → Scanner
  | 0, s => s
  | fuel + 1, s =>
    let s := s.moveTo (s.rest.dropWhile (· == ' '))
    let s := if s.rest.head? == some '#' then s.moveTo (s.rest.dropWhile (!isBreak ·)) else s
    match lineBreak? s.rest with
    | some (_, rest) =>
      let s := s.moveTo rest
      skipGap fuel (if s.inFlow then s else { s with allowKey := true })
    | none => s

/-- The character may stand in the name of an anchor, a directive or a tag handle. -/
def isNamePart (c : Char) : Bool := c.isAlphanum || c == '-' || c == '_'

/-- The character may stand in a tag. -/
def isTagPart (c : Char) : Bool := c.isAlphanum || "-;/?:@&=+$,_.!~*'()[]%".toList.contains c

/-- Percent-escaped bytes and the text after them. -/
def percentBytes : Nat → List Char → Except Error (List UInt8 × List Char)
  | 0, cs => .ok ([], cs)
  | fuel + 1, cs =>
    match cs with
    | '%' :: a :: b :: rest =>
      match hexNumber? [a, b] with
      | some n => (percentBytes fuel rest).map fun (bytes, rest) => (n.toUInt8 :: bytes, rest)
      | none => .error .malformed
    | '%' :: _ => .error .malformed
    | _ => .ok ([], cs)

/-- The characters of a tag and the text after them. -/
def tagChars : Nat → List Char → Except Error (List Char × List Char)
  | 0, cs => .ok ([], cs)
  | fuel + 1, cs =>
    match cs with
    | '%' :: _ => do
      let (bytes, rest) ← percentBytes cs.length cs
      match Text.decodeUtf8 bytes with
      | .error _ => .error .malformed
      | .ok decoded => (tagChars fuel rest).map fun (more, rest) => (decoded ++ more, rest)
    | c :: rest =>
      if isTagPart c then (tagChars fuel rest).map fun (more, rest) => (c :: more, rest)
      else .ok ([], cs)
    | [] => .ok ([], [])

/-- A tag or the beginning of one: at least one character. -/
def tagText (cs : List Char) : Except Error (List Char × List Char) := do
  let (chars, rest) ← tagChars cs.length.succ cs
  if chars.isEmpty then .error .malformed else .ok (chars, rest)

/-- A tag handle: one mark, or a name between two. -/
def tagHandle (cs : List Char) : Except Error (List Char × List Char) :=
  match cs with
  | '!' :: ' ' :: rest => .ok (['!'], ' ' :: rest)
  | '!' :: rest =>
    match rest.dropWhile isNamePart with
    | '!' :: after => .ok ('!' :: (rest.takeWhile isNamePart ++ ['!']), after)
    | _ => .error .malformed
  | _ => .error .malformed

/-- The text is at its end, at a blank or at a line end. -/
def atBlankOrEnd (cs : List Char) : Bool := cs.head?.all fun c => c == ' ' || isBreak c

/-- The rest of the line of a directive, which may hold a comment. -/
def restOfLine (cs : List Char) : Except Error (List Char) :=
  let cs := cs.dropWhile (· == ' ')
  let cs := if cs.head? == some '#' then cs.dropWhile (!isBreak ·) else cs
  if atLineEnd cs then .ok (((lineBreak? cs).map (·.2)).getD cs) else .error .malformed

/-- A directive, from after its mark. -/
def directive (cs : List Char) : Except Error (Directive × List Char) := do
  let name := cs.takeWhile isNamePart
  let rest := cs.dropWhile isNamePart
  if name.isEmpty || !atBlankOrEnd rest then .error .malformed
  else if name = "YAML".toList then
    let body := rest.dropWhile (· == ' ')
    let major := body.takeWhile Char.isDigit
    match body.dropWhile Char.isDigit with
    | '.' :: after =>
      let rest := after.dropWhile Char.isDigit
      if major.isEmpty || (after.takeWhile Char.isDigit).isEmpty || !atBlankOrEnd rest then
        .error .malformed
      else
        return (.version (major.foldl (fun n c => 10 * n + (c.toNat - 48)) 0), ← restOfLine rest)
    | _ => .error .malformed
  else if name = "TAG".toList then
    let (handle, rest) ← tagHandle (rest.dropWhile (· == ' '))
    if rest.head? ≠ some ' ' then .error .malformed
    else
      let (lead, rest) ← tagText (rest.dropWhile (· == ' '))
      if !atBlankOrEnd rest then .error .malformed
      else return (.tagHandle handle lead, ← restOfLine rest)
  else return (.unknown, ← restOfLine (rest.dropWhile (!isBreak ·)))

/-! ### Tokens -/

/-- The name of an anchor or alias, from after its mark. -/
def anchorName (cs : List Char) : Except Error (List Char × List Char) :=
  let name := cs.takeWhile isNamePart
  let rest := cs.dropWhile isNamePart
  let ends := rest.head?.all fun c => isGap c || "?:,]\x7d%@\x60".toList.contains c
  if name.isEmpty || !ends then .error .malformed else .ok (name, rest)

/-- A tag, from after its mark. -/
def tag (cs : List Char) : Except Error (Token × List Char) := do
  let (token, rest) ← match cs with
    | '<' :: body => do
      let (suffix, rest) ← tagText body
      match rest with
      | '>' :: rest => pure (Token.tag none suffix, rest)
      | _ => .error .malformed
    | _ =>
      if atGap cs then pure (Token.tag none ['!'], cs)
      else if (cs.takeWhile fun c => !(c == ' ' || isBreak c)).contains '!' then do
        let (handle, rest) ← tagHandle ('!' :: cs)
        let (suffix, rest) ← tagText rest
        pure (Token.tag (some handle) suffix, rest)
      else do
        let (suffix, rest) ← tagText cs
        pure (Token.tag (some ['!']) suffix, rest)
  if atBlankOrEnd rest then .ok (token, rest) else .error .malformed

/-- An opening bracket, which may start a key. -/
def openFlow (s : Scanner) (t : Token) : Except Error Scanner := do
  let s ← s.saveKey
  return ({ s with flowLevel := s.flowLevel + 1, allowKey := true }.forward 1).emit t

/-- A closing bracket. -/
def closeFlow (s : Scanner) (t : Token) : Except Error Scanner := do
  let s ← s.dropKey
  if s.flowLevel = 0 then .error .malformed
  else return ({ s with flowLevel := s.flowLevel - 1, allowKey := false }.forward 1).emit t

/-- A mark that ends all block collections. -/
def documentMark (s : Scanner) (t : Token) : Except Error Scanner := do
  let s ← (s.unwind (-1)).dropKey
  return ({ s with allowKey := false }.forward 3).emit t

/-- An indicator that starts an entry or a key of a block collection. -/
def indicator (s : Scanner) (collection t : Token) (allowKey : Bool) : Except Error Scanner := do
  if !s.inFlow && !s.allowKey then .error .malformed
  else
    let s := if !s.inFlow && s.opens s.column then (s.deepen s.column).emit collection else s
    let s ← { s with allowKey := allowKey }.dropKey
    return (s.forward 1).emit t

/-- A colon after a key. -/
def valueMark (s : Scanner) : Except Error Scanner :=
  match s.keys.lookup s.flowLevel with
  | some k =>
    let s := { s with keys := s.keys.filter fun (level, _) => level != s.flowLevel }
    -- the key was scanned before it was known to be one; its tokens are put in front of it
    let s := s.insertAt k.number .key
    let s := if !s.inFlow && s.opens k.column then
        (s.deepen k.column).insertAt k.number .blockMappingStart else s
    .ok (({ s with allowKey := false }.forward 1).emit .value)
  | none => s.indicator .blockMappingStart .value (!s.inFlow)

/-- A token that may be a key: an alias, an anchor, a tag or a scalar. -/
def keyLike (s : Scanner) (t : Token) (rest : List Char) : Except Error Scanner := do
  let s ← s.saveKey
  return ({ s with allowKey := false }.moveTo rest).emit t

/-- A block scalar, from after its mark. -/
def blockScalar (s : Scanner) (folded : Bool) (body : List Char) : Except Error Scanner := do
  let s ← { s with allowKey := true }.dropKey
  let (content, rest) ← block folded s.indent body
  return (s.moveTo rest).emit (.scalar (codePoints content) false)

/-- The character may start a plain scalar; `after` follows it. -/
def startsPlain (flow : Bool) (c : Char) (after : List Char) : Bool :=
  !(isGap c || "-?:,[]\x7b\x7d#&*!|>'\"%@\x60".toList.contains c) ||
    (!atGap after && (c == '-' || (!flow && (c == '?' || c == ':'))))

/-- A plain scalar. -/
def plainScalar (s : Scanner) : Except Error Scanner := do
  let s ← s.saveKey
  let (content, rest, broken) := plain s.inFlow (s.indent + 1) s.rest.length.succ s.rest
  return ({ s with allowKey := broken }.moveTo rest).emit (.scalar (codePoints content) true)

/-- The next token, at its first character. -/
def token (s : Scanner) (c : Char) (after : List Char) : Except Error Scanner :=
  if c == '%' && s.column == 0 then do
    let s ← (s.unwind (-1)).dropKey
    let (d, rest) ← directive after
    return ({ s with allowKey := false }.moveTo rest).emit (.directive d)
  else if s.column == 0 && atDocumentMark s.rest then
    s.documentMark (if c == '-' then .documentStart else .documentEnd)
  else if c == '[' then s.openFlow .flowSequenceStart
  else if c == '{' then s.openFlow .flowMappingStart
  else if c == ']' then s.closeFlow .flowSequenceEnd
  else if c == '}' then s.closeFlow .flowMappingEnd
  else if c == ',' then do
    let s ← { s with allowKey := true }.dropKey
    return (s.forward 1).emit .flowEntry
  else if c == '-' && atGap after then s.indicator .blockSequenceStart .blockEntry true
  else if c == '?' && (s.inFlow || atGap after) then
    s.indicator .blockMappingStart .key (!s.inFlow)
  else if c == ':' && (s.inFlow || atGap after) then s.valueMark
  else if c == '*' then do
    let (name, rest) ← anchorName after
    s.keyLike (.alias name) rest
  else if c == '&' then do
    let (name, rest) ← anchorName after
    s.keyLike (.anchor name) rest
  else if c == '!' then do
    let (t, rest) ← tag after
    s.keyLike t rest
  else if c == '|' && !s.inFlow then s.blockScalar false after
  else if c == '>' && !s.inFlow then s.blockScalar true after
  else if c == '\'' || c == '"' then do
    let (content, rest) ← quoted (c == '"') after.length.succ after
    s.keyLike (.scalar content false) rest
  else if startsPlain s.inFlow c after then s.plainScalar
  else .error .malformed

/-- A double quote starts a scalar that may be a key. -/
theorem token_quote {s : Scanner} {body : List Char} (hs : s.rest = '"' :: body) :
    s.token '"' body = quoted true body.length.succ body >>= fun (content, rest) =>
      s.keyLike (.scalar content false) rest := by
  simp [token, hs, atDocumentMark]

/-- Scans to the end; every token takes a character. -/
def run : Nat → Scanner → Except Error (List Token)
  | 0, _ => .error .malformed
  | fuel + 1, s => do
    let s ← (s.skipGap s.rest.length.succ).dropStaleKeys
    let s := s.unwind s.column
    match s.rest with
    | [] => do
      let s ← (s.unwind (-1)).dropKey
      return (Token.streamEnd :: s.tokens).reverse
    | c :: after => do run fuel (← s.token c after)

end Scanner

/-- The character may stand in YAML text. -/
def isPrintable (c : Char) : Bool :=
  let n := c.toNat
  n == 9 || n == 10 || n == 13 || (0x20 ≤ n && n ≤ 0x7E) || n == 0x85 ||
    (0xA0 ≤ n && n ≤ 0xD7FF) || (0xE000 ≤ n && n ≤ 0xFFFD) || 0x10000 ≤ n

/-- The tokens of a text.  A byte order mark at the start is no part of it. -/
def tokenize (text : List Char) : Except Error (List Token) :=
  if !text.all isPrintable then .error .malformed
  else
    let s := Scanner.start text
    Scanner.run text.length.succ (if text.head? == some '\uFEFF' then s.forward 1 else s)

end ApiScribe.Yaml
