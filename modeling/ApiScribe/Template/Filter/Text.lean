import ApiScribe.Template.Method

/-!
# Filters on texts

A value that is no text is turned into one first.
-/

namespace ApiScribe.Template.Eval

/-- The text of a value, character by character. -/
def charsOf (v : Value) : Eval (List Char) := return (← display v).toList

/-- A value as a text that methods can be called on. -/
def asText (v : Value) : Eval Value := do
  match v.string? with
  | some _ => return v
  | none => return .text (← display v)

/-- The character begins a word in a title when it stands before it. -/
def isTitleGap (c : Char) : Bool := Text.isBlank c || ['-', '(', '{', '[', '<'].contains c

/-- A text in which every word begins with a capital and goes on with small letters; `word` is the
current word, the last character first. -/
def titleFrom (word : List Char) : List Char → List Char
  | [] => titleWord word.reverse
  | c :: cs =>
    if isTitleGap c then titleWord word.reverse ++ c :: titleFrom [] cs
    else titleFrom (c :: word) cs
where
  /-- A word with a capital. -/
  titleWord : List Char → List Char
    | [] => []
    | c :: cs => Text.upperChar c ++ Text.lower cs

/-- The character is part of a word that is counted. -/
def isCounted (c : Char) : Bool := c == '_' || Text.isAlphanumeric c

/-- The number of words of a text. -/
def wordCount (cs : List Char) : Nat :=
  (cs.foldl (fun ((n, inside) : Nat × Bool) c =>
    if isCounted c then (if inside then n else n + 1, true) else (n, false)) (0, false)).1

/-- Adds a line end to a value whose lines are moved. -/
def endLine (v newline : Value) : Eval Value := do
  match v with
  | .list place =>
    -- the list takes up the line end and is then found to have no lines
    setList place ((← listAt place) ++ [newline])
    fail .member "'list' object has no attribute 'splitlines'"
  | v =>
    if v.string?.isSome || v.tuple?.isSome then applyBinary .add v newline
    else
      match v with
      | .undefined message _ => failUndefined message
      | v => unsupported "+=" v newline

/-- Moves the lines of a text to the right. -/
def indent (v width first blank : Value) : Eval Value := do
  let lead ← match width.string? with
    | some _ => pure width
    | none => applyBinary .mul (.text " ") width
  let (lead, newline) ← match v with
    | .markup _ => pure (Value.markup (lead.string?.getD ""), Value.markup "\n")
    | _ => pure (lead, Value.text "\n")
  let lines ← itemsOf (← callMethod (← endLine v newline) "splitlines" {})
  let between (separator : Value) (items : List Value) : Eval Value :=
    callMethod separator "join" ⟨[.tuple items], []⟩
  let body ← if ← isTrue blank then between (← applyBinary .add newline lead) lines
    else match lines with
      | [] => pure newline
      | [line] => pure line
      | line :: rest => do
        let rest ← rest.mapM fun l => do
          if ← isTrue l then applyBinary .add lead l else return l
        applyBinary .add line (← applyBinary .add newline (← between newline rest))
  if ← isTrue first then applyBinary .add lead body else return body

/-- Puts a text for another one. -/
def replaceText (v old new count : Value) : Eval Value := do
  let cs ← charsOf v
  let old ← charsOf old
  let new ← charsOf new
  let limit ← match count with
    | .none => pure none
    | count => limitArgument (some count)
  return ofChars (Text.replace old new limit cs)

/-- Puts a text between the texts of items. -/
def joinItems (v separator path : Value) : Eval Value := do
  let parts ← attributeParts path
  let separator ← charsOf separator
  let pieces ← foldCursor (fun pieces item => do
    return (← charsOf (← follow parts .none item)) :: pieces) (← cursorOf v) itemLimit []
  return ofChars (Text.join separator pieces.reverse)

/-- A text filled in with values. -/
def formatText (v : Value) (args : Actuals) : Eval Value := do
  if !args.positional.isEmpty && !args.named.isEmpty then
    failArgument "can't handle positional and keyword arguments at the same time"
  let values ← if args.named.isEmpty then pure (Value.tuple args.positional)
    else newDict (args.named.map fun (k, x) => (.text k, x))
  applyBinary .mod (← asText v) values

end ApiScribe.Template.Eval
