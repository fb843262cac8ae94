import ApiScribe.Template.Tree

/-!
# What a template mentions

The names, integers, filters and tests of a part of a template, in the order in which they are
used.
-/

namespace ApiScribe.Template

/-- A name, an integer, a filter or a test in an expression.  Inside of conditions a filter or test
need not exist, as long as nobody uses it: such a mention is tentative. -/
inductive Mention where
  | name (name : String)
  | integer (n : Int)
  | filter (name : String) (line : Nat) (tentative : Bool)
  | test (name : String) (line : Nat) (tentative : Bool)
  deriving DecidableEq, Repr

mutual

/-- The mentions of an expression; `t` tells that it stands inside of a condition.  Where the value
is known, filters and tests are not used any more. -/
def Expr.mentions (t : Bool) : Expr → List Mention
  | .name n => [.name n]
  | .const c => c.integers.map .integer
  | .tuple items => mentionsOf t items
  | .list items => mentionsOf t items
  | .dict pairs => mentionsOfPairs t pairs
  | .cell owner _ => [.name owner]
  | .member e _ => e.mentions t
  | .item e key => e.mentions t ++ key.mentions t
  | .slice a b c => mentionsOf? t a ++ mentionsOf? t b ++ mentionsOf? t c
  | .call f args named more moreNamed =>
    f.mentions t ++ mentionsOf t args ++ mentionsOfNamed t named ++ mentionsOf? t more ++
      mentionsOf? t moreNamed
  | .filter e name args named more moreNamed line =>
    .filter name line t :: (mentionsOf? t e ++ mentionsOf t args ++ mentionsOfNamed t named ++
      mentionsOf? t more ++ mentionsOf? t moreNamed)
  | .test e name args named more moreNamed line =>
    .test name line t :: (e.mentions t ++ mentionsOf t args ++ mentionsOfNamed t named ++
      mentionsOf? t more ++ mentionsOf? t moreNamed)
  | .unary _ e => e.mentions t
  | .binary _ a b => a.mentions t ++ b.mentions t
  | .both a b => a.mentions t ++ b.mentions t
  | .either a b => a.mentions t ++ b.mentions t
  | .compare e others => e.mentions t ++ mentionsOfCompared t others
  | .concat items => mentionsOf t items
  -- the branch comes before the condition, as it does in the text
  | .choice test yes no _ => yes.mentions true ++ test.mentions true ++ mentionsOf? true no
  | .known c e => c.integers.map .integer ++
      (e.mentions t).filter fun | .name _ => true | _ => false

@[inherit_doc Expr.mentions]
def mentionsOf (t : Bool) : List Expr → List Mention
  | [] => []
  | e :: es => e.mentions t ++ mentionsOf t es

@[inherit_doc Expr.mentions]
def mentionsOf? (t : Bool) : Option Expr → List Mention
  | none => []
  | some e => e.mentions t

@[inherit_doc Expr.mentions]
def mentionsOfPairs (t : Bool) : List (Expr × Expr) → List Mention
  | [] => []
  | (k, v) :: rest => k.mentions t ++ v.mentions t ++ mentionsOfPairs t rest

@[inherit_doc Expr.mentions]
def mentionsOfNamed (t : Bool) : List (String × Expr) → List Mention
  | [] => []
  | (_, e) :: rest => e.mentions t ++ mentionsOfNamed t rest

@[inherit_doc Expr.mentions]
def mentionsOfCompared (t : Bool) : List (CompareOp × Expr) → List Mention
  | [] => []
  | (_, e) :: rest => e.mentions t ++ mentionsOfCompared t rest

end

/-- The name, if a name is mentioned. -/
def Mention.name? : Mention → Option String
  | .name n => some n
  | _ => none

/-- The names of an expression. -/
def Expr.names (e : Expr) : List String := (e.mentions false).filterMap Mention.name?

/-- The names of an expression that may be left out. -/
def namesOf? (e : Option Expr) : List String := (e.map Expr.names).getD []

mutual

/-- The names that a target assigns to. -/
def Target.names : Target → List String
  | .name n => [n]
  | .cell _ _ => []
  | .tuple items => targetNames items

@[inherit_doc Target.names]
def targetNames : List Target → List String
  | [] => []
  | t :: ts => t.names ++ targetNames ts

end

mutual

/-- The namespaces of the cells that a target assigns to. -/
def Target.owners : Target → List String
  | .name _ => []
  | .cell owner _ => [owner]
  | .tuple items => targetOwners items

@[inherit_doc Target.owners]
def targetOwners : List Target → List String
  | [] => []
  | t :: ts => t.owners ++ targetOwners ts

end

/-- The use of a name in a statement. -/
inductive Use where
  | read (name : String)
  | write (name : String)
  /-- The name is a parameter of a body. -/
  | parameter (name : String)
  deriving DecidableEq, Repr

/-- The uses in an expression. -/
def Expr.uses (e : Expr) : List Use := e.names.map .read

/-- The expression of a piece of output. -/
def Piece.expr? : Piece → Option Expr
  | .data _ => none
  | .print e => some e
  | .known _ e => some e

/-- The uses in a list of parameters: the parameters first, then what they fall back on. -/
def parameterUses (ps : List Parameter) : List Use :=
  ps.map (.parameter ·.name) ++ ps.flatMap fun p => (namesOf? p.fallback).map .read

mutual

/-- The uses of names in a statement, in the order in which they stand.  Blocks are templates of
their own and do not count. -/
def Stmt.uses : Stmt → List Use
  | .output pieces => (pieces.filterMap Piece.expr?).flatMap Expr.uses
  | .loop target source body otherwise test _ _ =>
    target.names.map .write ++ source.uses ++ usesOf body ++ usesOf otherwise ++
      (namesOf? test).map .read
  | .branch test body more otherwise =>
    test.uses ++ usesOf body ++ usesOfMore more ++ usesOf otherwise
  | .assign target e => target.names.map .write ++ e.uses
  | .capture target filter body =>
    target.names.map .write ++ (namesOf? filter).map .read ++ usesOf body
  | .bind bindings body =>
    bindings.flatMap (fun b => b.1.names.map .parameter) ++ bindings.flatMap (fun b => b.2.uses) ++
      usesOf body
  | .scope body => usesOf body
  | .macroDef _ parameters body _ => parameterUses parameters ++ usesOf body
  | .callBlock call parameters body _ => call.uses ++ parameterUses parameters ++ usesOf body
  | .filterBlock filter body => usesOf body ++ filter.uses
  | .block _ _ _ _ _ => []
  | .extend e _ => e.uses
  | .insert e _ _ => e.uses
  | .importAs e _ _ => e.uses
  | .importFrom e _ _ _ => e.uses

@[inherit_doc Stmt.uses]
def usesOf : List Stmt → List Use
  | [] => []
  | s :: ss => s.uses ++ usesOf ss

@[inherit_doc Stmt.uses]
def usesOfMore : List (Expr × List Stmt) → List Use
  | [] => []
  | (test, body) :: rest => test.uses ++ usesOf body ++ usesOfMore rest

end

/-- The given names that are read before anything else is done to them. -/
def readFirst (names : List String) (uses : List Use) : List String :=
  (uses.foldl (fun ((open_, found) : List String × List String) use =>
    match use with
    | .read name =>
      if open_.contains name && !found.contains name then (open_, found ++ [name])
      else (open_, found)
    | .write name => (open_.filter (· != name), found)
    | .parameter name => (open_.filter (· != name), found)) (names, [])).2

/-- A block of a template. -/
structure Block where
  name : String
  body : List Stmt
  isScoped : Bool
  required : Bool
  line : Nat
  deriving Inhabited

mutual

/-- The blocks in a statement, an outer block before the blocks in it. -/
def Stmt.blocks : Stmt → List Block
  | .loop _ _ body otherwise _ _ _ => blocksOf body ++ blocksOf otherwise
  | .branch _ body more otherwise => blocksOf body ++ blocksOfMore more ++ blocksOf otherwise
  | .capture _ _ body => blocksOf body
  | .bind _ body => blocksOf body
  | .scope body => blocksOf body
  | .macroDef _ _ body _ => blocksOf body
  | .callBlock _ _ body _ => blocksOf body
  | .filterBlock _ body => blocksOf body
  | .block name body isScoped required line =>
    ⟨name, body, isScoped, required, line⟩ :: blocksOf body
  | _ => []

@[inherit_doc Stmt.blocks]
def blocksOf : List Stmt → List Block
  | [] => []
  | s :: ss => s.blocks ++ blocksOf ss

@[inherit_doc Stmt.blocks]
def blocksOfMore : List (Expr × List Stmt) → List Block
  | [] => []
  | (_, body) :: rest => blocksOf body ++ blocksOfMore rest

end

mutual

/-- The statement extends a template, or one in it does. -/
def Stmt.extendsAny : Stmt → Bool
  | .loop _ _ body otherwise _ _ _ => anyExtends body || anyExtends otherwise
  | .branch _ body more otherwise => anyExtends body || anyExtendsMore more || anyExtends otherwise
  | .capture _ _ body => anyExtends body
  | .bind _ body => anyExtends body
  | .scope body => anyExtends body
  | .macroDef _ _ body _ => anyExtends body
  | .callBlock _ _ body _ => anyExtends body
  | .filterBlock _ body => anyExtends body
  | .block _ body _ _ _ => anyExtends body
  | .extend _ _ => true
  | _ => false

@[inherit_doc Stmt.extendsAny]
def anyExtends : List Stmt → Bool
  | [] => false
  | s :: ss => s.extendsAny || anyExtends ss

@[inherit_doc Stmt.extendsAny]
def anyExtendsMore : List (Expr × List Stmt) → Bool
  | [] => false
  | (_, body) :: rest => anyExtends body || anyExtendsMore rest

end

end ApiScribe.Template
