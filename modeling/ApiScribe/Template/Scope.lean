import ApiScribe.Template.Mention

/-!
# Scopes

Every body with variables of its own is a layer on top of the layers around it.  Which variables a
layer has, and where each of them comes from when the body begins, follows from the body alone.
A variable that a body only reads belongs to the innermost layer around it that has it; if none
has it, it is looked up in the data of the template.
-/

namespace ApiScribe.Template

/-- Where a variable of a layer comes from when the layer begins. -/
inductive Source where
  /-- It is set by whatever begins the layer. -/
  | parameter
  /-- It is looked up in the data. -/
  | data
  /-- It is a copy of the variable of an outer layer. -/
  | copy (level : Nat)
  /-- It has no value yet. -/
  | unset
  deriving DecidableEq, Repr

/-- The variables of a body. -/
structure Layer where
  sources : List (String × Source) := []
  /-- The variables that the body sets. -/
  stores : List String := []
  deriving Inhabited, Repr

/-- The layers at a place, the innermost one first. -/
abbrev Scope := List Layer

/-- Sets the source of a variable, which keeps its place. -/
def setSource (name : String) (s : Source) : List (String × Source) → List (String × Source)
  | [] => [(name, s)]
  | (n, old) :: rest => if n = name then (n, s) :: rest else (n, old) :: setSource name s rest

/-- The union of two lists of names. -/
def union (a b : List String) : List String := a ++ b.filter (!a.contains ·)

namespace Scope

/-- The level of the innermost layer that has the variable. -/
def level? (name : String) : Scope → Option Nat
  | [] => none
  | layer :: outer =>
    if (layer.sources.lookup name).isSome then some outer.length else level? name outer

end Scope

namespace Layer

/-- A variable that the body reads. -/
def read (outer : Scope) (l : Layer) (name : String) : Layer :=
  if (Scope.level? name (l :: outer)).isSome then l
  else { l with sources := l.sources ++ [(name, .data)] }

/-- Variables that the body reads. -/
def readAll (outer : Scope) (l : Layer) (names : List String) : Layer :=
  names.foldl (read outer) l

/-- A variable that the body sets. -/
def store (outer : Scope) (l : Layer) (name : String) : Layer :=
  let l := { l with stores := union l.stores [name] }
  if (l.sources.lookup name).isSome then l
  else
    let s := match outer.level? name with
      | some level => .copy level
      | none => .unset
    { l with sources := l.sources ++ [(name, s)] }

/-- Variables that the body sets. -/
def storeAll (outer : Scope) (l : Layer) (names : List String) : Layer :=
  names.foldl (store outer) l

/-- A variable that is set before the body begins. -/
def parameter (l : Layer) (name : String) : Layer :=
  ⟨setSource name .parameter l.sources, union l.stores [name]⟩

/-- Variables that are set before the body begins. -/
def parameters (l : Layer) (names : List String) : Layer := names.foldl parameter l

/-- A layer after branches that start from it.  What only a branch sets has to have the value from
before in the other branches. -/
def join (outer : Scope) (l : Layer) (branches : List Layer) : Layer :=
  let new := (branches.foldl (fun acc b => union acc b.stores) []).filter (!l.stores.contains ·)
  let merged := branches.foldl (fun (acc : Layer) b =>
    ⟨b.sources.foldl (fun acc (n, s) => setSource n s acc) acc.sources,
      union acc.stores b.stores⟩) l
  new.foldl (fun acc name =>
    let s := match outer.level? name with
      | some level => .copy level
      | none => .data
    { acc with sources := setSource name s acc.sources }) merged

end Layer

mutual

/-- The variables of a layer after a statement in its body. -/
def Stmt.declare (outer : Scope) (l : Layer) : Stmt → Layer
  | .output pieces => l.readAll outer ((pieces.filterMap Piece.expr?).flatMap Expr.names)
  | .loop _ source _ _ _ _ _ => l.readAll outer source.names
  | .branch test body more otherwise =>
    let l := l.readAll outer test.names
    l.join outer [declareAll outer l body, declareMore outer l more, declareAll outer l otherwise]
  | .assign target e =>
    ((l.readAll outer e.names).readAll outer target.owners).storeAll outer target.names
  | .capture target _ _ => (l.readAll outer target.owners).storeAll outer target.names
  | .bind bindings _ => l.readAll outer (bindings.flatMap (·.2.names))
  | .scope _ => l
  | .macroDef name _ _ _ => l.store outer name
  | .callBlock call _ _ _ => l.readAll outer call.names
  | .filterBlock filter _ => l.readAll outer filter.names
  | .block _ _ _ _ _ => l
  | .extend e _ => l.readAll outer e.names
  | .insert e _ _ => l.readAll outer e.names
  | .importAs e name _ => (l.readAll outer e.names).store outer name
  | .importFrom e names _ _ => (l.readAll outer e.names).storeAll outer (names.map (·.2))

@[inherit_doc Stmt.declare]
def declareAll (outer : Scope) (l : Layer) : List Stmt → Layer
  | [] => l
  | s :: ss => declareAll outer (s.declare outer l) ss

/-- The variables of a layer after further branches; each of them is a branch of its own. -/
def declareMore (outer : Scope) (l : Layer) : List (Expr × List Stmt) → Layer
  | [] => l
  | (test, body) :: rest =>
    let l := l.readAll outer test.names
    declareMore outer (l.join outer [declareAll outer l body, l, l]) rest

end

namespace Scope

/-- The scope of a whole template. -/
def ofTemplate (body : List Stmt) : Scope :=
  let l : Layer := ({} : Layer).parameters (readFirst ["self"] (usesOf body))
  [declareAll [] l body]

/-- The scope of a block.  It is not inside of the template around it. -/
def ofBlock (body : List Stmt) : Scope :=
  let l : Layer := ({} : Layer).parameters (readFirst ["self", "super"] (usesOf body))
  [declareAll [] l body]

/-- The body of a loop has a variable for the loop itself: because it reads it, or because somebody
else may. -/
def hasLoopVariable (body otherwise : List Stmt) (recursive : Bool) : Bool :=
  recursive || !(readFirst ["loop"] (usesOf body)).isEmpty ||
    (blocksOf body ++ blocksOf otherwise).any (·.isScoped)

/-- The scope of the body of a loop. -/
def ofLoop (outer : Scope) (target : Target) (body : List Stmt) (loopVariable : Bool) : Scope :=
  let l : Layer := ({} : Layer).parameters (if loopVariable then ["loop"] else [])
  declareAll outer (l.parameters target.names) body :: outer

/-- The scope of a body without variables from outside: what follows a loop without items, a
captured body or a filtered one. -/
def ofBody (outer : Scope) (body : List Stmt) : Scope := declareAll outer {} body :: outer

/-- The scope of the condition of a loop. -/
def ofTest (outer : Scope) (target : Target) (test : Option Expr) : Scope :=
  (({} : Layer).parameters target.names).readAll outer (namesOf? test) :: outer

/-- The scope of a body with bindings. -/
def ofBindings (outer : Scope) (bindings : List (Target × Expr)) (body : List Stmt) : Scope :=
  declareAll outer (({} : Layer).parameters (bindings.flatMap (·.1.names))) body :: outer

/-- The scope of a filtered body, which the arguments of the filter belong to. -/
def ofFiltered (outer : Scope) (filter : Expr) (body : List Stmt) : Scope :=
  (declareAll outer {} body).readAll outer filter.names :: outer

/-- What the body of a macro uses without declaring it: the body it is called with, and the
arguments that no parameter takes. -/
def macroExtras (parameters : List Parameter) (body : List Stmt) : List String :=
  (readFirst ["caller", "kwargs", "varargs"] (usesOf body)).filter fun name =>
    !parameters.any (·.name == name)

/-- The scope of the body of a macro. -/
def ofMacro (outer : Scope) (parameters : List Parameter) (body : List Stmt) : Scope :=
  let names := parameters.map (·.name)
  let l : Layer := ({} : Layer).parameters names
  let l := l.readAll outer (parameters.flatMap fun p => namesOf? p.fallback)
  let l := (declareAll outer l body).parameters (macroExtras parameters body)
  l :: outer

end Scope
end ApiScribe.Template
