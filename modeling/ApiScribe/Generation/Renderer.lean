import ApiScribe.Generation.Rendered
import ApiScribe.Generation.ResolveError

/-!
# Renderers

The resolution of a model needs two things of a renderer: whether a template is registered under a
name, and the text of a template for given data.  What is registered never changes.  A renderer may
remember things from one rendering to the next, so its memory is passed along; a renderer that
remembers nothing has the memory `Unit`, and its texts depend on the name and the data alone.  What
a run asked of its renderer is recorded beside its outcome.  A template may change the data it is
rendered against, so rendering also gives the data as they are afterwards.

Registered names follow a fixed scheme: the wrappers have names of their own, a template file is
registered under its path, the template of its filenames under the path and `_name`, and the
replacement of an identifier under the identifier and `_rename`.
-/

namespace ApiScribe

/-- A source of rendered templates with a memory. -/
structure Renderer (μ : Type) where
  /-- A template is registered under the name. -/
  has : String → Bool
  /-- The text of the template of a name for the data, and the memory after it. -/
  render : String → Data → μ → Except ResolveError Rendered × μ

namespace Renderer

/-- The renderer that remembers nothing. -/
def ofAnswers (has : String → Bool) (answer : String → Data → Except ResolveError Rendered) :
    Renderer Unit :=
  ⟨has, fun name data _ => (answer name data, ())⟩

/-- The name of the wrapper for arrays. -/
def arrayName : String := "array"

/-- The name of the wrapper for optionals. -/
def optionalName : String := "optional"

/-- The name of the template of a template file's filenames. -/
def filenameName (path : String) : String := path ++ "_name"

/-- The name of the template of an identifier's replacement. -/
def renameName (identifier : String) : String := identifier ++ "_rename"

end Renderer

/-- A question to a renderer. -/
inductive Call where
  | has (name : String)
  | render (name : String)
  deriving DecidableEq, Repr

/-- How a computation that asked a renderer ended: the calls it made, in order, its outcome, and the
memory of the renderer. -/
structure Ran (μ α : Type) where
  calls : List Call
  outcome : Except ResolveError α
  memory : μ

/-- A computation that asks a renderer. -/
def Run (μ α : Type) : Type := μ → Ran μ α

namespace Run

variable {μ α β : Type}

/-- Ends with a value, without a call. -/
def done (a : α) : Run μ α := fun memory => ⟨[], .ok a, memory⟩

/-- Ends as given, without a call. -/
def ofOutcome (x : Except ResolveError α) : Run μ α := fun memory => ⟨[], x, memory⟩

/-- Goes on after a success; the calls follow each other. -/
def andThen (x : Run μ α) (f : α → Run μ β) : Run μ β := fun memory =>
  match x memory with
  | ⟨calls, .error e, memory⟩ => ⟨calls, .error e, memory⟩
  | ⟨calls, .ok a, memory⟩ =>
    let rest := f a memory
    { rest with calls := calls ++ rest.calls }

instance : Monad (Run μ) where
  pure := done
  bind := andThen

/-- Does a step for each item, in order. -/
def each (f : α → Run μ β) : List α → Run μ (List β)
  | [] => done []
  | a :: as => (f a).andThen fun b => (each f as).andThen fun bs => done (b :: bs)

end Run

namespace Renderer

variable {μ : Type}

/-- Asks whether a template is registered. -/
def ask (r : Renderer μ) (name : String) : Run μ Bool :=
  fun memory => ⟨[.has name], .ok (r.has name), memory⟩

/-- Renders a template. -/
def run (r : Renderer μ) (name : String) (data : Data) : Run μ Rendered := fun memory =>
  let (outcome, memory) := r.render name data memory
  ⟨[.render name], outcome, memory⟩

end Renderer
end ApiScribe
