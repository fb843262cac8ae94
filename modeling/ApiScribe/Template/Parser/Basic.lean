import ApiScribe.Template.Token
import ApiScribe.Template.Tree
import ApiScribe.Text.Quoted

/-!
# Reading tokens

A parser takes tokens from the front.  It also knows which tags are open and which words would
close the innermost one, for the message when a template ends too early.
-/

namespace ApiScribe.Template

/-- The tokens that are left: the current one, those after it, and the fault that follows them. -/
structure Reading where
  current : Token
  rest : List Token
  fault : Option Refusal
  /-- The open tags, the innermost one first. -/
  tags : List String
  /-- The words that close the open bodies, those of the innermost one first. -/
  closers : List (List String)
  /-- A number that no repetition exceeds, since each takes a token. -/
  bound : Nat

/-- A parser of part of a template. -/
abbrev Parser (α : Type) := StateT Reading (Except Refusal) α

namespace Parser

/-- Refuses the template because of the given line. -/
def failAt {α : Type} (line : Nat) (message : String) : Parser α :=
  fun _ => .error (.at line message)

/-- The current token. -/
def current : Parser Token := return (← get).current

/-- The current lexeme. -/
def lexeme : Parser Lexeme := return (← current).lexeme

/-- The line of the current token. -/
def line : Parser Nat := return (← current).line

/-- Refuses the template because of the current token. -/
def fail {α : Type} (message : String) : Parser α := do failAt (← line) message

/-- A description in apostrophes. -/
def quote (s : String) : String := Text.quotedString s

/-- Takes a token: afterwards the next one is current. -/
def advance : Parser Token := fun s =>
  match s.rest, s.fault with
  | t :: rest, _ => .ok (s.current, { s with current := t, rest := rest })
  | [], some fault => .error fault
  | [], none => .ok (s.current, { s with current := ⟨s.current.line, .finish⟩ })

/-- The token after the current one. -/
def peek : Parser Lexeme := fun s =>
  match s.rest, s.fault with
  | t :: _, _ => .ok (t.lexeme, s)
  | [], some fault => .error fault
  | [], none => .ok (.finish, s)

/-- Takes the current token if it is as asked for. -/
def expect (fits : Lexeme → Bool) (description : String) : Parser Token := do
  let l ← lexeme
  if fits l then advance
  else
    match l with
    | .finish => fail ("unexpected end of template, expected " ++ quote description ++ ".")
    | l => fail ("expected token " ++ quote description ++ ", got " ++ quote l.describe)

/-- Takes a sign. -/
def expectSign (symbol : String) : Parser Unit := do
  let _ ← expect (·.isSign symbol) symbol

/-- Takes the given word. -/
def expectWord (word : String) : Parser Unit := do
  let _ ← expect (·.isName word) word

/-- Takes the end of a statement. -/
def expectBlockEnd : Parser Unit := do
  let _ ← expect (fun | .blockEnd => true | _ => false) Lexeme.blockEnd.describe

/-- Takes the end of a printed expression. -/
def expectPrintEnd : Parser Unit := do
  let _ ← expect (fun | .printEnd => true | _ => false) Lexeme.printEnd.describe

/-- Takes any word. -/
def expectName : Parser String := do
  let t ← expect (fun | .name _ => true | _ => false) "name"
  match t.lexeme with
  | .name word => return word
  | _ => return ""

/-- The current token is the given sign. -/
def atSign (symbol : String) : Parser Bool := return (← lexeme).isSign symbol

/-- The current token is the given word. -/
def atWord (word : String) : Parser Bool := return (← lexeme).isName word

/-- The current token is the one word, and the token after it the other.  A token is looked at only
if all before it fit, since the text may be refused behind it. -/
def atWords (first second : String) : Parser Bool := do
  if ← atWord first then return (← peek).isName second
  else return false

/-- The current token is the end of a statement. -/
def atBlockEnd : Parser Bool := return match ← lexeme with
  | .blockEnd => true
  | _ => false

/-- Takes a sign if it is the current token, and tells so. -/
def skipSign (symbol : String) : Parser Bool := do
  if ← atSign symbol then
    let _ ← advance
    return true
  else return false

/-- Takes a word if it is the current token, and tells so. -/
def skipWord (word : String) : Parser Bool := do
  if ← atWord word then
    let _ ← advance
    return true
  else return false

/-- A number that no repetition exceeds. -/
def bound : Parser Nat := return (← get).bound

/-- Takes two words if they are the current token and the one after it, and tells so. -/
def skipWords (first second : String) : Parser Bool := do
  if ← atWords first second then
    let _ ← advance
    let _ ← advance
    return true
  else return false

/-- Repeats a step as long as it gives something new. -/
def iterate {α : Type} (step : α → Parser (Option α)) : Nat → α → Parser α
  | 0, a => return a
  | fuel + 1, a => do
    match ← step a with
    | some b => iterate step fuel b
    | none => return a

end Parser
end ApiScribe.Template
