/-!
# What can go wrong with a template

A template that is not well formed is refused before anything is rendered.  Rendering a well-formed
one can still fail on the data it meets.
-/

namespace ApiScribe.Template

/-- Why a text is no template: what is wrong, and the line on which it shows. -/
structure SyntaxError where
  line : Nat
  message : String
  deriving DecidableEq, Repr, Inhabited

/-- The kind of a failure while rendering. -/
inductive FaultKind where
  /-- A value that is not there is used. -/
  | undefined
  /-- An operation does not apply to the type of a value. -/
  | type
  | value
  | zeroDivision
  | index
  | key
  | member
  | overflow
  /-- Something changes that must not, because it is being walked. -/
  | change
  /-- A word is used that means nothing. -/
  | unknownName
  /-- There is no room for a value. -/
  | memory
  /-- The template uses something that does not exist, or in a way that is not allowed. -/
  | runtime
  | filterArgument
  | templateMissing
  | templatesMissing
  | recursion
  deriving DecidableEq, Repr

/-- The word for the kind in reports. -/
def FaultKind.name : FaultKind → String
  | .undefined => "UndefinedError"
  | .type => "TypeError"
  | .value => "ValueError"
  | .zeroDivision => "ZeroDivisionError"
  | .index => "IndexError"
  | .key => "KeyError"
  | .member => "AttributeError"
  | .overflow => "OverflowError"
  | .change => "RuntimeError"
  | .unknownName => "NameError"
  | .memory => "MemoryError"
  | .runtime => "TemplateRuntimeError"
  | .filterArgument => "FilterArgumentError"
  | .templateMissing => "TemplateNotFound"
  | .templatesMissing => "TemplatesNotFound"
  | .recursion => "RecursionError"

/-- A failure while rendering. -/
structure Fault where
  kind : FaultKind
  message : String
  deriving DecidableEq, Repr

/-- The failure with its kind, in words. -/
def Fault.text (f : Fault) : String := f.kind.name ++ ": " ++ f.message

/-- Why a text is refused as a template: it is not well formed, or a part of it that needs no data
has no value. -/
inductive Refusal where
  | ill (e : SyntaxError)
  | failed (f : Fault)
  deriving DecidableEq, Repr

/-- What is wrong with the form of a template, and the line on which it shows. -/
def Refusal.at (line : Nat) (message : String) : Refusal := .ill ⟨line, message⟩

namespace Fault

/-- Rendering went deeper than is allowed. -/
def tooDeep : Fault := ⟨.recursion, "maximum recursion depth exceeded"⟩

/-- Something is used that exists and that the engine does not support: a failure of this engine
alone. -/
def unsupported (what : String) : Fault := ⟨.runtime, what ++ " is not supported"⟩

/-- A text of so many digits is to be read as an integer. -/
def integerTooLong (digits : Nat) : Fault :=
  ⟨.value, "Exceeds the limit (4300 digits) for integer string conversion: value has " ++
    toString digits ++ " digits; use sys.set_int_max_str_digits() to increase the limit"⟩

/-- An integer is too large to be written. -/
def integerTooLarge : Fault :=
  ⟨.value, "Exceeds the limit (4300 digits) for integer string conversion; " ++
    "use sys.set_int_max_str_digits() to increase the limit"⟩

end Fault

end ApiScribe.Template
