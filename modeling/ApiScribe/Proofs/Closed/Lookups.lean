import ApiScribe.Template.Compiled

/-!
# The names that code looks up

Each body with variables of its own looks up, when it begins, the variables of its layer that come
from the data.  Which ones these are follows from the code and the scope around it, so they can be
listed for all bodies that may begin while the code runs: `Compiled.lookups` for a whole template.
-/

namespace ApiScribe.Template

/-- The variables of a layer that come from the data. -/
def Layer.lookups (l : Layer) : List String :=
  l.sources.filterMap fun (name, s) => if s = .data then some name else none

/-- The names that are looked up when a body with this scope begins. -/
def Scope.lookups : Scope → List String
  | [] => []
  | layer :: _ => layer.lookups

/-- The scope of the body of a loop in the given scope. -/
def Scope.inLoop (scope : Scope) (target : Target) (body otherwise : List Stmt)
    (recursive : Bool) : Scope :=
  Scope.ofLoop scope target body (Scope.hasLoopVariable body otherwise recursive)

/-- The names that the condition of a loop looks up. -/
def testLookups (scope : Scope) (target : Target) : Option Expr → List String
  | none => []
  | some e => (Scope.ofTest scope target e).lookups

mutual

/-- The names that the bodies in a statement look up.  Blocks are templates of their own and do not
count. -/
def Stmt.lookups (scope : Scope) : Stmt → List String
  | .loop target _ body otherwise test recursive _ =>
    testLookups scope target test ++
      ((scope.inLoop target body otherwise recursive).lookups ++
        lookupsOf (scope.inLoop target body otherwise recursive) body) ++
      ((Scope.ofBody scope otherwise).lookups ++ lookupsOf (Scope.ofBody scope otherwise) otherwise)
  | .branch _ body more otherwise =>
    lookupsOf scope body ++ lookupsOfMore scope more ++ lookupsOf scope otherwise
  | .capture _ _ body =>
    (Scope.ofBody scope body).lookups ++ lookupsOf (Scope.ofBody scope body) body
  | .bind bindings body =>
    (Scope.ofBindings scope bindings body).lookups ++
      lookupsOf (Scope.ofBindings scope bindings body) body
  | .scope body => (Scope.ofBody scope body).lookups ++ lookupsOf (Scope.ofBody scope body) body
  | .macroDef _ parameters body _ =>
    (Scope.ofMacro scope parameters body).lookups ++
      lookupsOf (Scope.ofMacro scope parameters body) body
  | .callBlock _ parameters body _ =>
    (Scope.ofMacro scope parameters body).lookups ++
      lookupsOf (Scope.ofMacro scope parameters body) body
  | .filterBlock filter body =>
    (Scope.ofFiltered scope filter body).lookups ++
      lookupsOf (Scope.ofFiltered scope filter body) body
  | _ => []

@[inherit_doc Stmt.lookups]
def lookupsOf (scope : Scope) : List Stmt → List String
  | [] => []
  | s :: ss => s.lookups scope ++ lookupsOf scope ss

@[inherit_doc Stmt.lookups]
def lookupsOfMore (scope : Scope) : List (Expr × List Stmt) → List String
  | [] => []
  | (_, body) :: rest => lookupsOf scope body ++ lookupsOfMore scope rest

end

/-- The names that a body looks up when it begins and while it runs. -/
def bodyLookups (scope : Scope) (body : List Stmt) : List String :=
  scope.lookups ++ lookupsOf scope body

/-- The names that a block looks up. -/
def Block.lookups (b : Block) : List String := bodyLookups (Scope.ofBlock b.body) b.body

/-- The names that a template looks up. -/
def Compiled.lookups (t : Compiled) : List String :=
  bodyLookups (Scope.ofTemplate t.body) t.body ++ t.blocks.flatMap Block.lookups

end ApiScribe.Template
