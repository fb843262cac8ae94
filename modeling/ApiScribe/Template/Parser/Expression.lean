import ApiScribe.Template.Parser.Basic

/-!
# Parsing expressions

From the weakest to the strongest, the operators are: the inline condition, `or`, `and`, `not`,
comparisons, sums, `~`, products, powers, signs, and what follows a value: members, subscripts,
calls, filters and tests.

The grammar is recursive.  The parsers here are given the parsers of the parts that they nest, and
the whole is closed at the end of the next module.
-/

namespace ApiScribe.Template

/-- The parsers that expressions and statements nest. -/
structure Grammar where
  expression : Parser Expr
  /-- An expression without an inline condition. -/
  disjunction : Parser Expr
  negation : Parser Expr
  /-- A value with the signs before it; filters may follow it or not. -/
  signed : Bool → Parser Expr
  statement : Parser Stmt

namespace Grammar

open ApiScribe.Template.Parser

/-- A list of expressions up to a closing sign, with an optional separator at the end. -/
def items (item : Parser Expr) (close : String) : Parser (List Expr) := do
  let found ← iterate (fun (acc : List Expr) => do
    if ← atSign close then return none
    if !acc.isEmpty then expectSign ","
    -- the sign may follow a separator, too
    if ← atSign close then return none
    return some ((← item) :: acc)) (← bound) []
  expectSign close
  return found.reverse

/-- The pairs of a dictionary. -/
def pairs (g : Grammar) : Parser (List (Expr × Expr)) := do
  let found ← iterate (fun (acc : List (Expr × Expr)) => do
    if ← atSign "\x7d" then return none
    if !acc.isEmpty then expectSign ","
    if ← atSign "\x7d" then return none
    let key ← g.expression
    expectSign ":"
    return some ((key, ← g.expression) :: acc)) (← bound) []
  expectSign "\x7d"
  return found.reverse

/-- A tuple ends before the end of a tag, a closing parenthesis or one of the given words. -/
def atTupleEnd (words : List String) : Parser Bool := return match ← lexeme with
  | .printEnd => true
  | .blockEnd => true
  | .sign s => s == ")"
  | .name word => words.contains word
  | _ => false

/-- Expressions separated by commas: a single one stands for itself.  Only in parentheses may there
be none. -/
def tupleOf (item : Parser Expr) (endWords : List String) (parenthesised : Bool) : Parser Expr := do
  let (found, isTuple, _) ← iterate
    (fun ((acc, isTuple, done) : List Expr × Bool × Bool) => do
      if done then return none
      if !acc.isEmpty then expectSign ","
      if ← atTupleEnd endWords then return none
      let e ← item
      if ← atSign "," then return some (e :: acc, true, false)
      else return some (e :: acc, isTuple, true)) (← bound) ([], false, false)
  match found, isTuple with
  | [e], false => return e
  | [], false =>
    if parenthesised then return .tuple []
    else fail ("Expected an expression, got " ++ quote (← lexeme).describe)
  | found, _ => return .tuple found.reverse

/-- A value, a name, or something in brackets.  Where a value is assigned, a name may be followed
by a member of the namespace of that name. -/
def primary (g : Grammar) (withCells : Bool) : Parser Expr := do
  match ← lexeme with
  | .name word =>
    let _ ← advance
    match word with
    | "true" => return .const (.bool true)
    | "True" => return .const (.bool true)
    | "false" => return .const (.bool false)
    | "False" => return .const (.bool false)
    | "none" => return .const .none
    | "None" => return .const .none
    | _ =>
      if withCells && (← atSign ".") then
        let _ ← advance
        return .cell word (← expectName)
      else return .name word
  | .text s =>
    let _ ← advance
    let text ← iterate (fun (acc : String) => do
      match ← lexeme with
      | .text more =>
        let _ ← advance
        return some (acc ++ more)
      | _ => return none) (← bound) s
    return .const (.text text)
  | .integer n =>
    let _ ← advance
    return .const (.int n)
  | .float x =>
    let _ ← advance
    return .const (.float x)
  | .sign "(" =>
    let _ ← advance
    let e ← tupleOf g.expression [] true
    expectSign ")"
    return e
  | .sign "[" =>
    let _ ← advance
    return .list (← items g.expression "]")
  | .sign "\x7b" =>
    let _ ← advance
    return .dict (← g.pairs)
  | l => fail ("unexpected " ++ quote l.describe)

/-! ### What follows a value -/

/-- A bound of a slice is left out before a closing bracket, a comma or, if asked for, a colon. -/
def sliceBound (g : Grammar) (beforeColon : Bool) : Parser (Option Expr) := do
  if (← atSign "]") || (← atSign ",") || (beforeColon && (← atSign ":")) then return none
  else return some (← g.expression)

/-- A subscript: a key or a slice. -/
def subscript (g : Grammar) : Parser Expr := do
  let start ← if ← atSign ":" then pure none else pure (some (← g.expression))
  match start, ← skipSign ":" with
  | some key, false => return key
  | start, _ =>
    let stop ← g.sliceBound true
    let step ← if ← skipSign ":" then g.sliceBound false else pure none
    return .slice start stop step

/-- The subscripts in brackets. -/
def subscripts (g : Grammar) : Parser Expr := do
  let found ← iterate (fun (acc : List Expr) => do
    if ← atSign "]" then return none
    if !acc.isEmpty then expectSign ","
    return some ((← g.subscript) :: acc)) (← bound) []
  expectSign "]"
  match found with
  | [key] => return key
  | found => return .tuple found.reverse

/-- A member after a point, by name or by number. -/
def memberOf (e : Expr) : Parser Expr := do
  let t ← advance
  match t.lexeme with
  | .name word => return .member e word
  | .integer n => return .item e (.const (.int n))
  | _ => failAt t.line "expected name or number"

/-- One more argument; `opening` is the line of the parenthesis. -/
def argument (g : Grammar) (opening : Nat) (a : Arguments) : Parser Arguments := do
  let ensure (ok : Bool) : Parser Unit :=
    if ok then pure () else failAt opening "invalid syntax for function call expression"
  match ← lexeme with
  | .sign "*" =>
    ensure (a.more.isNone && a.moreNamed.isNone)
    let _ ← advance
    return { a with more := some (← g.expression) }
  | .sign "**" =>
    ensure a.moreNamed.isNone
    let _ ← advance
    return { a with moreNamed := some (← g.expression) }
  | l =>
    let named ← match l with
      | .name word => pure (if (← peek).isSign "=" then some word else none)
      | _ => pure none
    match named with
    | some word =>
      ensure a.moreNamed.isNone
      let _ ← advance
      let _ ← advance
      return { a with named := a.named ++ [(word, ← g.expression)] }
    | none =>
      -- arguments without a name come before all others
      ensure (a.more.isNone && a.moreNamed.isNone && a.named.isEmpty)
      return { a with positional := a.positional ++ [← g.expression] }

/-- Arguments in parentheses. -/
def arguments (g : Grammar) : Parser Arguments := do
  let opening ← line
  expectSign "("
  let (args, _) ← iterate (fun ((acc, first) : Arguments × Bool) => do
    if ← atSign ")" then return none
    if !first then expectSign ","
    if ← atSign ")" then return none
    return some (← g.argument opening acc, false)) (← bound) ({}, true)
  expectSign ")"
  return args

/-- A call. -/
def callOf (g : Grammar) (f : Expr) : Parser Expr := do
  let a ← g.arguments
  return .call f a.positional a.named a.more a.moreNamed

/-- Members, subscripts and calls. -/
def postfixes (g : Grammar) (e : Expr) : Parser Expr := do
  iterate (fun (e : Expr) => do
    match ← lexeme with
    | .sign "." =>
      let _ ← advance
      return some (← memberOf e)
    | .sign "[" =>
      let _ ← advance
      return some (.item e (← g.subscripts))
    | .sign "(" => return some (← g.callOf e)
    | _ => return none) (← bound) e

/-- A name with points in it. -/
def dottedName : Parser String := do
  let word ← expectName
  iterate (fun (name : String) => do
    if ← skipSign "." then return some (name ++ "." ++ (← expectName)) else return none)
    (← bound) word

/-- A filter, from after its bar. -/
def filterOf (g : Grammar) (e : Option Expr) : Parser Expr := do
  let at_ ← line
  let name ← dottedName
  let a ← if ← atSign "(" then g.arguments else pure {}
  return .filter e name a.positional a.named a.more a.moreNamed at_

/-- The filters after an expression, or after nothing. -/
def filters (g : Grammar) (e : Option Expr) : Parser (Option Expr) := do
  iterate (fun (e : Option Expr) => do
    if ← skipSign "|" then return some (some (← g.filterOf e)) else return none) (← bound) e

/-- The argument of a test may stand without parentheses, unless it would be another word of the
expression. -/
def startsArgument : Lexeme → Bool
  | .name word => !(["else", "or", "and"].contains word)
  | .text _ => true
  | .integer _ => true
  | .float _ => true
  | .sign s => s == "[" || s == "\x7b"
  | _ => false

/-- A test, from its first word. -/
def testOf (g : Grammar) (e : Expr) : Parser Expr := do
  let t ← advance
  let negated ← skipWord "not"
  let name ← dottedName
  let a : Arguments ←
    if ← atSign "(" then g.arguments
    else if startsArgument (← lexeme) then
      -- `a is b is c` could only mean a test `b` with the argument `is`
      if ← atWord "is" then fail "You cannot chain multiple tests with is"
      else pure { positional := [← g.postfixes (← g.primary false)] }
    else pure {}
  let test := Expr.test e name a.positional a.named a.more a.moreNamed t.line
  return if negated then .unary .not test else test

/-- Filters, tests and calls of what they give. -/
def filtersAndTests (g : Grammar) (e : Expr) : Parser Expr := do
  iterate (fun (e : Expr) => do
    match ← lexeme with
    | .sign "|" =>
      let _ ← advance
      return some (← g.filterOf (some e))
    | .name "is" => return some (← g.testOf e)
    | .sign "(" => return some (← g.callOf e)
    | _ => return none) (← bound) e

/-! ### Operators -/

/-- A value with the signs before it. -/
def signedValue (g : Grammar) (withFilters : Bool) : Parser Expr := do
  let e ←
    if ← skipSign "-" then pure (.unary .neg (← g.signed false))
    else if ← skipSign "+" then pure (.unary .pos (← g.signed false))
    else g.primary false
  let e ← g.postfixes e
  if withFilters then g.filtersAndTests e else return e

/-- A chain of operators of one strength, grouped to the left. -/
def chain (operand : Parser Expr) (op? : Lexeme → Option (Expr → Expr → Expr)) : Parser Expr := do
  let first ← operand
  iterate (fun (left : Expr) => do
    match op? (← lexeme) with
    | some op =>
      let _ ← advance
      return some (op left (← operand))
    | none => return none) (← bound) first

/-- Powers. -/
def power (g : Grammar) : Parser Expr :=
  chain (g.signedValue true) fun
    | .sign "**" => some (.binary .pow)
    | _ => none

/-- Products and quotients. -/
def product (g : Grammar) : Parser Expr :=
  chain g.power fun
    | .sign "*" => some (.binary .mul)
    | .sign "/" => some (.binary .div)
    | .sign "//" => some (.binary .floorDiv)
    | .sign "%" => some (.binary .mod)
    | _ => none

/-- Texts put together. -/
def concatenation (g : Grammar) : Parser Expr := do
  let first ← g.product
  let found ← iterate (fun (acc : List Expr) => do
    if ← skipSign "~" then return some ((← g.product) :: acc) else return none) (← bound) [first]
  match found with
  | [e] => return e
  | found => return .concat found.reverse

/-- Sums and differences. -/
def sum (g : Grammar) : Parser Expr :=
  chain g.concatenation fun
    | .sign "+" => some (.binary .add)
    | .sign "-" => some (.binary .sub)
    | _ => none

/-- The comparison that a sign stands for. -/
def comparison? : Lexeme → Option CompareOp
  | .sign "==" => some .eq
  | .sign "!=" => some .ne
  | .sign "<" => some .lt
  | .sign "<=" => some .le
  | .sign ">" => some .gt
  | .sign ">=" => some .ge
  | .name "in" => some .inside
  | _ => none

/-- Comparisons, which may be chained. -/
def comparison (g : Grammar) : Parser Expr := do
  let first ← g.sum
  let found ← iterate (fun (acc : List (CompareOp × Expr)) => do
    let l ← lexeme
    match comparison? l with
    | some op =>
      let _ ← advance
      return some ((op, ← g.sum) :: acc)
    | none =>
      if ← skipWords "not" "in" then return some ((.notInside, ← g.sum) :: acc)
      else return none) (← bound) []
  return if found.isEmpty then first else .compare first found.reverse

/-- A comparison, or the negation of one. -/
def negationBody (g : Grammar) : Parser Expr := do
  if ← skipWord "not" then return .unary .not (← g.negation) else g.comparison

/-- Negations joined by `and`, and these joined by `or`. -/
def disjunctionBody (g : Grammar) : Parser Expr :=
  chain
    (chain g.negationBody fun
      | .name "and" => some .both
      | _ => none)
    fun
      | .name "or" => some .either
      | _ => none

/-- An expression with inline conditions. -/
def expressionBody (g : Grammar) : Parser Expr := do
  let start ← line
  let first ← g.disjunctionBody
  let (e, _) ← iterate (fun ((e, start) : Expr × Nat) => do
    if ← skipWord "if" then
      let test ← g.disjunctionBody
      let no ← if ← skipWord "else" then pure (some (← g.expression)) else pure none
      return some (.choice test e no start, ← line)
    else return none) (← bound) (first, start)
  return e

/-- An expression that may be a tuple. -/
def tuple (g : Grammar) : Parser Expr := tupleOf g.expression [] false

/-- A tuple of expressions without inline conditions, before one of the given words. -/
def plainTuple (g : Grammar) (endWords : List String) : Parser Expr :=
  tupleOf g.disjunction endWords false

/-! ### Targets -/

/-- An expression that is assigned to. -/
def target (e : Expr) (at_ : Nat) : Parser Target :=
  match e.toTarget? with
  | some t => pure t
  | none => failAt at_ ("can't assign to " ++ quote e.kind)

/-- One target or several, before one of the given words. -/
def targets (g : Grammar) (endWords : List String) (withCells : Bool) : Parser Target := do
  let at_ ← line
  target (← tupleOf (g.primary withCells) endWords false) at_

/-- A name that is assigned to. -/
def targetName : Parser String := do
  let at_ ← line
  let word ← expectName
  if reservedWords.contains word then failAt at_ ("can't assign to " ++ quote "name")
  else return word

end Grammar
end ApiScribe.Template
