import ApiScribe.Template.Fold
import ApiScribe.Template.Parser.Statement

/-!
# Checking a template

A well-formed template can still be refused before it is rendered: because two blocks share a name,
because a filter or test does not exist, because a loop variable is assigned to, because a value
that is known beforehand fails.  The same walk over the template finds the variables that it looks
up in its data, which tells what data a template needs, and leaves the template with all values in
it that are known beforehand.
-/

namespace ApiScribe.Template

/-- What is known about a template at a place of the walk. -/
structure Findings where
  /-- The variables that are looked up in the data. -/
  needed : List String := []
  /-- From here on the template is known to have a parent. -/
  inherits : Bool := false
  /-- The parents that were named so far. -/
  parents : Nat := 0

/-- A step of the walk. -/
abbrev Checker (α : Type) := StateT Findings (Except Refusal) α

/-- Refuses the template. -/
def refuse {α : Type} (line : Nat) (message : String) : Checker α :=
  fun _ => .error (.at line message)

/-- Refuses the template if a value that is known beforehand fails. -/
def computed {α : Type} : Except Fault α → Checker α
  | .ok a => return a
  | .error fault => fun _ => .error (.failed fault)

/-- Where a statement stands. -/
structure Place where
  scope : Scope
  /-- Outside of all bodies with variables of their own. -/
  toplevel : Bool := false
  /-- Outside of conditions, too. -/
  rootlevel : Bool := false
  /-- Inside of a condition, where a filter or test need not exist. -/
  tentative : Bool := false
  /-- What is printed here is left out when the template has a parent. -/
  hushed : Bool := false
  /-- The template is only inspected. -/
  lenient : Bool

namespace Place

/-- The same place in a body of a condition. -/
def inBranch (p : Place) : Place := { p with rootlevel := false, tentative := true }

/-- A place in a body with variables of its own. -/
def inBody (p : Place) (scope : Scope) : Place :=
  { scope, hushed := p.hushed, lenient := p.lenient }

end Place

/-- The variables that a layer looks up in the data. -/
def Layer.needed (l : Layer) : List String :=
  l.sources.filterMap fun (name, s) =>
    if s = .data && !globalNames.contains name then some name else none

/-- Enters a body with variables of its own. -/
def enter (scope : Scope) : Checker Unit := do
  match scope with
  | [] => return
  | l :: _ => modify fun s => { s with needed := union s.needed l.needed }

/-- Refuses a filter or test that does not exist, and an integer that is too large to be written. -/
def Mention.check : Mention → Checker Unit
  | .name _ => return
  | .integer n => do let _ ← computed (intText n)
  | .filter word line tentative => do
    if !tentative && !filterNames.contains word then
      refuse line ("No filter named " ++ Text.quotedString word ++ ".")
  | .test word line tentative => do
    if !tentative && !testNames.contains word then
      refuse line ("No test named " ++ Text.quotedString word ++ ".")

/-- Checks what an expression mentions. -/
def Expr.checkMentions (p : Place) (e : Expr) : Checker Unit :=
  (e.mentions p.tentative).forM Mention.check

/-- Checks an expression. -/
def Expr.check (p : Place) (e : Expr) : Checker Expr := do
  let e ← computed (e.settled p.lenient)
  e.checkMentions p
  return e

/-- Checks an expression that may be left out. -/
def checkSome (p : Place) : Option Expr → Checker (Option Expr)
  | none => return none
  | some e => do return some (← e.check p)

/-- Checks a piece of output. -/
def Piece.check (p : Place) (piece : Piece) : Checker Piece := do
  let piece ← computed (piece.settled p.lenient)
  if let .print e := piece then e.checkMentions p
  return piece

/-- Checks what parameters fall back on. -/
def checkParameters (p : Place) (parameters : List Parameter) : Checker (List Parameter) :=
  parameters.mapM fun q => return { q with fallback := ← checkSome p q.fallback }

/-- A statement assigns to the variable for the loop. -/
def assignsLoop (target : Target) (body otherwise : List Stmt) : Bool :=
  let inside := (blocksOf body ++ blocksOf otherwise).flatMap fun b => usesOf b.body
  target.names.contains "loop" ||
    (usesOf body ++ usesOf otherwise ++ inside).any fun use => use = .write "loop"

/-- The parameter for the body of a call has no default although the macro uses it. -/
def callerLacksDefault (parameters : List Parameter) (body : List Stmt) : Bool :=
  !(readFirst ["caller"] (usesOf body)).isEmpty &&
    parameters.any fun p => p.name = "caller" && p.fallback.isNone

/-- The refusal of a parameter for the body of a call without a default. -/
def callerMessage : String :=
  "When defining macros or call blocks the special \"caller\" argument must be omitted or be " ++
    "given a default."

mutual

/-- Checks a statement; tells whether the statements after it are reached. -/
def Stmt.check (p : Place) : Stmt → Checker (Stmt × Bool)
  | .output pieces => do
    if p.hushed && (← get).inherits then return (.output pieces, true)
    return (.output (← pieces.mapM (Piece.check p)), true)
  | .loop target source body otherwise test recursive line => do
    let test ← match test with
      | none => pure none
      | some t => do
        let scope := Scope.ofTest p.scope target t
        enter scope
        pure (some (← t.check (p.inBody scope)))
    if assignsLoop target body otherwise then
      refuse line "Can't assign to special loop variable in for-loop target"
    -- a loop that can be entered again is a routine, and its source comes after the routine
    let source ← if recursive then pure source else source.check p
    let scope := Scope.ofLoop p.scope target body (Scope.hasLoopVariable body otherwise recursive)
    enter scope
    let body ← checkAll (p.inBody scope) body
    let otherwise ← if otherwise.isEmpty then pure [] else do
      let scope := Scope.ofBody p.scope otherwise
      enter scope
      checkAll (p.inBody scope) otherwise
    let source ← if recursive then source.check p else pure source
    return (.loop target source body otherwise test recursive line, true)
  | .branch test body more otherwise => do
    let p := p.inBranch
    let test ← test.check p
    let body ← checkAll p body
    let more ← checkMore p more
    return (.branch test body more (← checkAll p otherwise), true)
  | .assign target e => do
    return (.assign target (← e.check p), true)
  | .capture target filter body => do
    let scope := Scope.ofBody p.scope body
    let inner := { p.inBody scope with hushed := false }
    enter scope
    let body ← checkAll inner body
    return (.capture target (← checkSome inner filter) body, true)
  | .bind bindings body => do
    let scope := Scope.ofBindings p.scope bindings body
    enter scope
    let bindings ← bindings.mapM fun (target, e) => return (target, ← e.check p)
    return (.bind bindings (← checkAll (p.inBody scope) body), true)
  | .scope body => do
    let scope := Scope.ofBody p.scope body
    enter scope
    return (.scope (← checkAll (p.inBody scope) body), true)
  | .macroDef name parameters body line => do
    let scope := Scope.ofMacro p.scope parameters body
    let inner := { p.inBody scope with hushed := false }
    if callerLacksDefault parameters body then refuse line callerMessage
    enter scope
    let parameters ← checkParameters inner parameters
    return (.macroDef name parameters (← checkAll inner body) line, true)
  | .callBlock call parameters body line => do
    let scope := Scope.ofMacro p.scope parameters body
    let inner := { p.inBody scope with hushed := false }
    if callerLacksDefault parameters body then refuse line callerMessage
    enter scope
    let parameters ← checkParameters inner parameters
    let body ← checkAll inner body
    return (.callBlock (← call.check p) parameters body line, true)
  | .filterBlock filter body => do
    let scope := Scope.ofFiltered p.scope filter body
    let inner := p.inBody scope
    enter scope
    let body ← checkAll inner body
    return (.filterBlock (← filter.check inner) body, true)
  | .block name body isScoped required line =>
    return (.block name body isScoped required line, true)
  | .extend e line => do
    if !p.toplevel then refuse line "cannot use extend from a non top-level scope"
    let s ← get
    -- a second parent ends the rendering, so nothing after it is looked at
    if s.parents > 0 && s.inherits then return (.extend e line, false)
    let e ← e.check p
    modify fun s => { s with inherits := s.inherits || p.rootlevel, parents := s.parents + 1 }
    return (.extend e line, true)
  | .insert e ignoreMissing withContext => do
    return (.insert (← e.check p) ignoreMissing withContext, true)
  | .importAs e name withContext => do
    return (.importAs (← e.check p) name withContext, true)
  | .importFrom e names withContext line => do
    return (.importFrom (← e.check p) names withContext line, true)

/-- Checks statements one after the other, as far as they are reached. -/
def checkAll (p : Place) : List Stmt → Checker (List Stmt)
  | [] => return []
  | s :: ss => do
    let (s, goesOn) ← s.check p
    return s :: (← if goesOn then checkAll p ss else pure ss)

/-- Checks further branches. -/
def checkMore (p : Place) : List (Expr × List Stmt) → Checker (List (Expr × List Stmt))
  | [] => return []
  | (test, body) :: rest => do
    let test ← test.check p
    let body ← checkAll p body
    return (test, body) :: (← checkMore p rest)

end

/-- Refuses the second block of a name. -/
def checkBlockNames : List String → List Block → Checker Unit
  | _, [] => return
  | seen, b :: bs => do
    if seen.contains b.name then
      refuse b.line ("block " ++ Text.quotedString b.name ++ " defined twice")
    checkBlockNames (b.name :: seen) bs

/-- Checks a block. -/
def Block.check (lenient : Bool) (b : Block) : Checker Block := do
  let scope := Scope.ofBlock b.body
  enter scope
  return { b with body := ← checkAll { scope, lenient } b.body }

/-- Checks a template and the blocks in it. -/
def check (lenient : Bool) (body : List Stmt) : Checker (List Stmt × List Block) := do
  let blocks := blocksOf body
  checkBlockNames [] blocks
  let scope := Scope.ofTemplate body
  enter scope
  let checked ← checkAll
    { scope, toplevel := true, rootlevel := true, hushed := anyExtends body, lenient } body
  return (checked, ← blocks.mapM (Block.check lenient))

/-- What a template is compiled for. -/
inductive Purpose where
  | rendering
  /-- To find out what it needs.  Its last line end does not count. -/
  | inspection
  deriving DecidableEq, Repr

/-- The template of a text. -/
def compile (purpose : Purpose) (source : List Char) : Except Refusal Compiled := do
  let body ← parse (purpose = .rendering) source
  let ((body, blocks), findings) ← (check (purpose = .inspection) body).run {}
  return ⟨body, blocks, findings.needed⟩

end ApiScribe.Template
