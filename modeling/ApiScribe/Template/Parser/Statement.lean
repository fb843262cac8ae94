import ApiScribe.Template.Lexer
import ApiScribe.Template.Parser.Expression
import ApiScribe.Text.Blank

/-!
# Parsing statements

A body goes on up to a tag that closes it.  A tag that nobody knows, and a template that ends with
an open body, are reported together with what would have closed the body.
-/

namespace ApiScribe.Template

namespace Grammar

open ApiScribe.Template.Parser

/-! ### Bodies -/

/-- Why a tag, or the end of the template, does not fit here. -/
def misfit (tag : Option String) (closers : List (List String)) (tags : List String) : String :=
  let start := match tag with
    | none => "Unexpected end of template."
    | some name => "Encountered unknown tag " ++ quote name ++ "."
  let looking := match closers with
    | [] => []
    | words :: _ =>
      let list := " or ".intercalate (words.map quote)
      if tag.any fun name => closers.any (·.contains name) then
        ["You probably made a nesting mistake. Jinja is expecting this tag, " ++
          "but currently looking for " ++ list ++ "."]
      else ["Jinja was looking for the following tags: " ++ list ++ "."]
  let innermost := match tags with
    | [] => []
    | name :: _ => ["The innermost block that needs to be closed is " ++ quote name ++ "."]
  " ".intercalate (start :: (looking ++ innermost))

/-- What is read of a body. -/
structure BodySoFar where
  /-- The pieces of the output at its end, the last one first. -/
  pieces : List Piece := []
  /-- The statements before that output, the last one first. -/
  statements : List Stmt := []
  /-- The word that closes the body is the current token. -/
  closed : Bool := false

/-- All statements that are read, the last one first. -/
def BodySoFar.flush (b : BodySoFar) : List Stmt :=
  if b.pieces.isEmpty then b.statements else .output b.pieces.reverse :: b.statements

/-- One more piece or statement of a body, or the word that closes it. -/
def bodyStep (g : Grammar) (closers : Option (List String)) (b : BodySoFar) :
    Parser (Option BodySoFar) := do
  if b.closed then return none
  match ← lexeme with
  | .data text =>
    let _ ← advance
    return some { b with pieces := .data text :: b.pieces }
  | .printBegin =>
    let _ ← advance
    let e ← g.tuple
    expectPrintEnd
    return some { b with pieces := .print e :: b.pieces }
  | .blockBegin =>
    let _ ← advance
    match ← lexeme, closers with
    | .name word, some words =>
      if words.contains word then return some ⟨[], b.flush, true⟩
      else
        let s ← g.statement
        expectBlockEnd
        return some ⟨[], s :: b.flush, false⟩
    | _, _ =>
      let s ← g.statement
      expectBlockEnd
      return some ⟨[], s :: b.flush, false⟩
  | _ => return none

/-- A body up to a word that closes it, which is left as the current token; the whole template if
no word is given. -/
def body (g : Grammar) (closers : Option (List String)) : Parser (List Stmt) := do
  modify fun s => { s with closers := closers.toList ++ s.closers }
  let found ← iterate (g.bodyStep closers) (← bound) {}
  modify fun s => { s with closers := s.closers.drop closers.toList.length }
  return found.flush.reverse

/-- The body of a statement, from the end of its tag up to a word that closes it. -/
def bodyUntil (g : Grammar) (closers : List String) : Parser (List Stmt) := do
  let _ ← skipSign ":"
  expectBlockEnd
  let found ← g.body (some closers)
  match ← lexeme with
  | .finish => fail (misfit none (closers :: (← get).closers) (← get).tags)
  | _ => return found

/-- The body of a statement with the single word that closes it. -/
def closedBody (g : Grammar) (closer : String) : Parser (List Stmt) := do
  let found ← g.bodyUntil [closer]
  let _ ← advance
  return found

/-! ### Statements -/

/-- An assignment of a value or of a rendered body. -/
def assignment (g : Grammar) : Parser Stmt := do
  let target ← g.targets [] true
  if ← skipSign "=" then return .assign target (← g.tuple)
  else
    let filter ← g.filters none
    return .capture target filter (← g.closedBody "endset")

/-- A loop. -/
def loop (g : Grammar) (at_ : Nat) : Parser Stmt := do
  let target ← g.targets ["in"] false
  expectWord "in"
  let source ← g.plainTuple ["recursive"]
  let test ← if ← skipWord "if" then pure (some (← g.expression)) else pure none
  let recursive ← skipWord "recursive"
  let found ← g.bodyUntil ["endfor", "else"]
  let closer ← advance
  let otherwise ← if closer.lexeme.isName "endfor" then pure [] else g.closedBody "endfor"
  return .loop target source found otherwise test recursive at_

/-- A branch, from after its first word. -/
def branch (g : Grammar) : Parser Stmt := do
  let closers := ["elif", "else", "endif"]
  let test ← g.plainTuple []
  let found ← g.bodyUntil closers
  let (more, closer) ← iterate
    (fun ((more, closer) : List (Expr × List Stmt) × Token) => do
      if closer.lexeme.isName "elif" then
        let test ← g.plainTuple []
        let found ← g.bodyUntil closers
        return some ((test, found) :: more, ← advance)
      else return none) (← bound) ([], ← advance)
  let otherwise ← if closer.lexeme.isName "else" then g.closedBody "endif" else pure []
  return .branch test found more.reverse otherwise

/-- Bindings for a body. -/
def binding (g : Grammar) : Parser Stmt := do
  let found ← iterate (fun (acc : List (Target × Expr)) => do
    if ← atBlockEnd then return none
    if !acc.isEmpty then expectSign ","
    let target ← g.targets [] false
    expectSign "="
    return some ((target, ← g.expression) :: acc)) (← bound) []
  return .bind found.reverse (← g.closedBody "endwith")

/-- The output consists of blanks alone. -/
def isBlankOutput : Stmt → Bool
  | .output pieces => pieces.all fun
    | .data text => !text.isEmpty && text.toList.all Text.isBlank
    | _ => false
  | _ => false

/-- A block that other templates may replace. -/
def namedBlock (g : Grammar) (at_ : Nat) : Parser Stmt := do
  let name ← expectName
  let isScoped ← skipWord "scoped"
  let required ← skipWord "required"
  if ← atSign "-" then
    fail ("Block names in Jinja have to be valid Python identifiers " ++
      "and may not contain hyphens, use an underscore instead.")
  let found ← g.closedBody "endblock"
  if required && !found.all isBlankOutput then
    fail "Required blocks can only contain comments or whitespace"
  let _ ← skipWord name
  return .block name found isScoped required at_

/-- Whether variables are passed on, if that is said. -/
def contextChoice : Parser (Option Bool) := do
  if ← skipWords "with" "context" then return some true
  else if ← skipWords "without" "context" then return some false
  else return none

/-- The insertion of another template. -/
def insertion (g : Grammar) : Parser Stmt := do
  let e ← g.expression
  let ignoreMissing ← skipWords "ignore" "missing"
  return .insert e ignoreMissing ((← contextChoice).getD true)

/-- The import of another template as a whole. -/
def importWhole (g : Grammar) : Parser Stmt := do
  let e ← g.expression
  expectWord "as"
  let name ← targetName
  return .importAs e name ((← contextChoice).getD false)

/-- What is imported by name. -/
structure Imported where
  names : List (String × String) := []
  context : Option Bool := none
  done : Bool := false

/-- The import of some names of another template. -/
def importNames (g : Grammar) (at_ : Nat) : Parser Stmt := do
  let e ← g.expression
  expectWord "import"
  let found ← iterate (fun (acc : Imported) => do
    if acc.done then return none
    if !acc.names.isEmpty then expectSign ","
    match ← lexeme with
    | .name _ =>
      match ← contextChoice with
      | some choice => return some { acc with context := some choice, done := true }
      | none =>
        let start ← line
        let name ← targetName
        if name.startsWith "_" then
          failAt start "names starting with an underline can not be imported"
        let alias_ ← if ← skipWord "as" then targetName else pure name
        let names := acc.names ++ [(name, alias_)]
        match ← contextChoice with
        | some choice => return some ⟨names, some choice, true⟩
        | none => return some { acc with names := names, done := !(← atSign ",") }
    | _ =>
      let _ ← expectName
      return none) (← bound) {}
  return .importFrom e found.names (found.context.getD false) at_

/-- The parameters of a macro, in parentheses. -/
def signature (g : Grammar) : Parser (List Parameter) := do
  expectSign "("
  let found ← iterate (fun (acc : List Parameter) => do
    if ← atSign ")" then return none
    if !acc.isEmpty then expectSign ","
    let name ← targetName
    if ← skipSign "=" then return some (⟨name, some (← g.expression)⟩ :: acc)
    else if acc.any (·.fallback.isSome) then fail "non-default argument follows default argument"
    else return some (⟨name, none⟩ :: acc)) (← bound) []
  expectSign ")"
  return found.reverse

/-- A call with a body that the called macro may render. -/
def callWithBody (g : Grammar) (at_ : Nat) : Parser Stmt := do
  let parameters ← if ← atSign "(" then g.signature else pure []
  let call ← g.expression
  match call with
  | .call _ _ _ _ _ => return .callBlock call parameters (← g.closedBody "endcall") at_
  | _ => failAt at_ "expected call"

/-- A filter for a body. -/
def filteredBody (g : Grammar) : Parser Stmt := do
  let first ← g.filterOf none
  let filter ← g.filters (some first)
  return .filterBlock (filter.getD first) (← g.closedBody "endfilter")

/-- A macro. -/
def macroDefinition (g : Grammar) (at_ : Nat) : Parser Stmt := do
  let name ← targetName
  let parameters ← g.signature
  return .macroDef name parameters (← g.closedBody "endmacro") at_

/-- Printed expressions. -/
def printed (g : Grammar) : Parser Stmt := do
  let found ← iterate (fun (acc : List Piece) => do
    if ← atBlockEnd then return none
    if !acc.isEmpty then expectSign ","
    return some (.print (← g.expression) :: acc)) (← bound) []
  return .output found.reverse

/-- A statement, from its first word up to the end of its last tag. -/
def statementBody (g : Grammar) : Parser Stmt := do
  let t ← current
  match t.lexeme with
  | .name word =>
    let inside (p : Parser Stmt) : Parser Stmt := do
      modify fun s => { s with tags := word :: s.tags }
      let _ ← advance
      let found ← p
      modify fun s => { s with tags := s.tags.drop 1 }
      return found
    match word with
    | "for" => inside (g.loop t.line)
    | "if" => inside g.branch
    | "block" => inside (g.namedBlock t.line)
    | "extends" => inside do return .extend (← g.expression) t.line
    | "print" => inside g.printed
    | "macro" => inside (g.macroDefinition t.line)
    | "include" => inside g.insertion
    | "from" => inside (g.importNames t.line)
    | "import" => inside g.importWhole
    | "set" => inside g.assignment
    | "with" => inside g.binding
    | "autoescape" => inside do
      let _ ← g.expression
      return .scope (← g.closedBody "endautoescape")
    | "call" => inside (g.callWithBody t.line)
    | "filter" => inside g.filteredBody
    | _ => failAt t.line (misfit (some word) (← get).closers (← get).tags)
  | _ => failAt t.line "tag name expected"

/-! ### The whole grammar -/

/-- The grammar for templates that nest at most so deep. -/
def ofDepth : Nat → Grammar
  | 0 =>
    let tooDeep {α : Type} : Parser α := fail "too many nested expressions"
    ⟨tooDeep, tooDeep, tooDeep, fun _ => tooDeep, tooDeep⟩
  | n + 1 =>
    let g := ofDepth n
    ⟨g.expressionBody, g.disjunctionBody, g.negationBody, g.signedValue, g.statementBody⟩

end Grammar

/-- The statements of tokens of which there are at most `size`. -/
def parseTokens (size : Nat) (tokens : Tokens) : Except Refusal (List Stmt) :=
  -- every nesting and every repetition takes a token
  let g := Grammar.ofDepth (size + 2)
  let start : Reading := ⟨⟨1, .finish⟩, tokens.items, tokens.fault, [], [], size + 2⟩
  (do
    let _ ← Parser.advance
    g.body none : Parser (List Stmt)) start |>.map (·.1)

/-- The statements of a template. -/
def parse (keepLastLineEnd : Bool) (source : List Char) : Except Refusal (List Stmt) :=
  let all := tokenize true source
  parseTokens all.items.length (if keepLastLineEnd then all else tokenize false source)

end ApiScribe.Template
