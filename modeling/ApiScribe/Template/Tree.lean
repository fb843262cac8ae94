/-!
# Expressions and statements

The tree of a template.  Lines are kept where a message may name them.
-/

namespace ApiScribe.Template

/-- A value that is written out. -/
inductive Constant where
  | none
  | bool (b : Bool)
  | int (n : Int)
  | float (x : Float)
  | complex (re im : Float)
  | text (s : String)
  /-- A text that needs no escaping. -/
  | markup (s : String)
  | tuple (items : List Constant)
  | list (items : List Constant)
  | dict (pairs : List (Constant × Constant))
  deriving Inhabited, Repr

mutual

/-- The integers in a constant, in order. -/
def Constant.integers : Constant → List Int
  | .int n => [n]
  | .tuple items => integersOf items
  | .list items => integersOf items
  | .dict pairs => integersOfPairs pairs
  | _ => []

@[inherit_doc Constant.integers]
def integersOf : List Constant → List Int
  | [] => []
  | c :: cs => c.integers ++ integersOf cs

@[inherit_doc Constant.integers]
def integersOfPairs : List (Constant × Constant) → List Int
  | [] => []
  | (k, c) :: rest => k.integers ++ c.integers ++ integersOfPairs rest

end

/-- An operator between two values. -/
inductive BinaryOp where
  | add
  | sub
  | mul
  | div
  | floorDiv
  | mod
  | pow
  deriving DecidableEq, Inhabited, Repr

/-- An operator before a value. -/
inductive UnaryOp where
  | neg
  | pos
  | not
  deriving DecidableEq, Inhabited, Repr

/-- A comparison of two values. -/
inductive CompareOp where
  | eq
  | ne
  | lt
  | le
  | gt
  | ge
  | inside
  | notInside
  deriving DecidableEq, Inhabited, Repr

/-- An expression. -/
inductive Expr where
  | name (name : String)
  | const (c : Constant)
  | tuple (items : List Expr)
  | list (items : List Expr)
  | dict (pairs : List (Expr × Expr))
  /-- The member of a namespace that is assigned to. -/
  | cell (owner member : String)
  | member (e : Expr) (name : String)
  | item (e key : Expr)
  | slice (start stop step : Option Expr)
  | call (f : Expr) (args : List Expr) (named : List (String × Expr)) (more moreNamed : Option Expr)
  /-- A filter; without an expression it is applied to a text that is rendered first. -/
  | filter (e : Option Expr) (name : String) (args : List Expr) (named : List (String × Expr))
      (more moreNamed : Option Expr) (line : Nat)
  | test (e : Expr) (name : String) (args : List Expr) (named : List (String × Expr))
      (more moreNamed : Option Expr) (line : Nat)
  | unary (op : UnaryOp) (e : Expr)
  | binary (op : BinaryOp) (a b : Expr)
  | both (a b : Expr)
  | either (a b : Expr)
  | compare (e : Expr) (others : List (CompareOp × Expr))
  | concat (items : List Expr)
  | choice (test yes : Expr) (no : Option Expr) (line : Nat)
  /-- An expression whose value is known before anything is rendered. -/
  | known (value : Constant) (e : Expr)
  deriving Inhabited, Repr

/-- The arguments of a call. -/
structure Arguments where
  positional : List Expr := []
  named : List (String × Expr) := []
  more : Option Expr := none
  moreNamed : Option Expr := none
  deriving Inhabited

/-- The word for a kind of expression in messages. -/
def Expr.kind : Expr → String
  | .name _ => "name"
  | .const _ => "const"
  | .tuple _ => "tuple"
  | .list _ => "list"
  | .dict _ => "dict"
  | .cell _ _ => "nsref"
  | .member _ _ => "getattr"
  | .item _ _ => "getitem"
  | .slice _ _ _ => "slice"
  | .call _ _ _ _ _ => "call"
  | .filter _ _ _ _ _ _ _ => "filter"
  | .test _ _ _ _ _ _ _ => "test"
  | .unary .neg _ => "neg"
  | .unary .pos _ => "pos"
  | .unary .not _ => "not"
  | .binary .add _ _ => "add"
  | .binary .sub _ _ => "sub"
  | .binary .mul _ _ => "mul"
  | .binary .div _ _ => "div"
  | .binary .floorDiv _ _ => "floordiv"
  | .binary .mod _ _ => "mod"
  | .binary .pow _ _ => "pow"
  | .both _ _ => "and"
  | .either _ _ => "or"
  | .compare _ _ => "compare"
  | .concat _ => "concat"
  | .choice _ _ _ _ => "condexpr"
  | .known _ _ => "const"

/-- What a value is assigned to. -/
inductive Target where
  | name (name : String)
  | cell (owner member : String)
  | tuple (items : List Target)
  deriving Inhabited, Repr

/-- The words that stand for values and cannot be assigned to. -/
def reservedWords : List String := ["true", "false", "none", "True", "False", "None"]

mutual

/-- The expression as a target, if it can be assigned to. -/
def Expr.toTarget? : Expr → Option Target
  | .name name => if reservedWords.contains name then none else some (.name name)
  | .cell n a => some (.cell n a)
  | .tuple items => (targets? items).map .tuple
  | _ => none

@[inherit_doc Expr.toTarget?]
def targets? : List Expr → Option (List Target)
  | [] => some []
  | e :: es => do
    let t ← e.toTarget?
    let ts ← targets? es
    some (t :: ts)

end

/-- A parameter of a macro. -/
structure Parameter where
  name : String
  fallback : Option Expr
  deriving Inhabited, Repr

/-- A piece of output. -/
inductive Piece where
  | data (text : String)
  | print (e : Expr)
  /-- The text of an expression whose value is known before anything is rendered. -/
  | known (text : String) (e : Expr)
  deriving Inhabited, Repr

/-- A statement. -/
inductive Stmt where
  | output (pieces : List Piece)
  | loop (target : Target) (source : Expr) (body otherwise : List Stmt) (test : Option Expr)
      (recursive : Bool) (line : Nat)
  | branch (test : Expr) (body : List Stmt) (more : List (Expr × List Stmt)) (otherwise : List Stmt)
  | assign (target : Target) (e : Expr)
  /-- Assigns the rendered body; the filter, if there is one, is applied to it. -/
  | capture (target : Target) (filter : Option Expr) (body : List Stmt)
  | bind (bindings : List (Target × Expr)) (body : List Stmt)
  | scope (body : List Stmt)
  | macroDef (name : String) (parameters : List Parameter) (body : List Stmt) (line : Nat)
  | callBlock (call : Expr) (parameters : List Parameter) (body : List Stmt) (line : Nat)
  | filterBlock (filter : Expr) (body : List Stmt)
  | block (name : String) (body : List Stmt) (isScoped required : Bool) (line : Nat)
  | extend (e : Expr) (line : Nat)
  | insert (e : Expr) (ignoreMissing withContext : Bool)
  | importAs (e : Expr) (name : String) (withContext : Bool)
  | importFrom (e : Expr) (names : List (String × String)) (withContext : Bool) (line : Nat)
  deriving Inhabited, Repr

end ApiScribe.Template
