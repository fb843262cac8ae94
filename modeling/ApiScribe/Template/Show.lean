import ApiScribe.Decimal.Shortest
import ApiScribe.Template.Value
import ApiScribe.Text.Quoted

/-!
# Values as text

A value is printed as a reader would write it in an expression; a text alone is printed as it is.
A list or dictionary inside of itself is shown as dots.
-/

namespace ApiScribe.Template

/-- The name of the type of a function. -/
def Function.typeName : Function → String
  | .lipsum => "function"
  | _ => "type"

/-- The name of the type of a view. -/
def DictPart.typeName : DictPart → String
  | .items => "dict_items"
  | .keys => "dict_keys"
  | .values => "dict_values"

/-- What a walk through a dictionary gives. -/
def DictPart.walkName : DictPart → String
  | .items => "item"
  | .keys => "key"
  | .values => "value"

/-- The greatest number of a machine word. -/
def wordLimit : Int := Decimal.twoTo 63 - 1

/-- The number fits into a machine word. -/
def fitsWord (n : Int) : Bool := -wordLimit - 1 ≤ n && n ≤ wordLimit

/-- The name of the type of a cursor. -/
def Cursor.typeName : Cursor → String
  | .values kind _ => kind
  | .numbers next left step =>
    if fitsWord next && fitsWord step && fitsWord (next + left * step) then "range_iterator"
    else "longrange_iterator"
  | .itemsFrom _ _ => "list_iterator"
  | .itemsBefore _ _ => "list_reverseiterator"
  | .pairs part _ _ _ backwards =>
    "dict_" ++ (if backwards then "reverse" else "") ++ part.walkName ++ "iterator"
  | _ => "generator"

/-- The name of the type of a value. -/
def Value.typeName (h : Heap) : Value → String
  | .none => "NoneType"
  | .bool _ => "bool"
  | .int _ => "int"
  | .float _ => "float"
  | .nan _ => "float"
  | .complex _ _ => "complex"
  | .text _ => "str"
  | .markup _ => "Markup"
  | .tuple _ => "tuple"
  | .group _ _ => "_GroupTuple"
  | .range _ _ _ => "range"
  | .list _ => "list"
  | .dict _ => "dict"
  | .dictView part _ => part.typeName
  | .cells _ => "Namespace"
  | .cursor place => (h.cursors.getD place default).typeName
  | .joiner _ => "Joiner"
  | .cycler _ => "Cycler"
  | .loop _ => "LoopContext"
  | .routine _ => "Macro"
  | .module _ => "TemplateModule"
  | .blocks _ => "TemplateReference"
  | .block _ _ _ => "BlockReference"
  | .function f => f.typeName
  | .method (.markup _) _ => "method"
  | .method (.loop _) _ => "method"
  | .method (.cycler _) _ => "method"
  | .method _ _ => "builtin_function_or_method"
  | .undefined _ lenient => if lenient then "Undefined" else "StrictUndefined"

/-- The module of a type that is not built in. -/
def Value.typeHome? : Value → Option String
  | .markup _ => some "markupsafe"
  | .group _ _ => some "jinja2.filters"
  | .cells _ => some "jinja2.utils"
  | .joiner _ => some "jinja2.utils"
  | .cycler _ => some "jinja2.utils"
  | .loop _ => some "jinja2.runtime"
  | .routine _ => some "jinja2.runtime"
  | .module _ => some "jinja2.environment"
  | .blocks _ => some "jinja2.runtime"
  | .block _ _ _ => some "jinja2.runtime"
  | _ => .none

/-- What a value is called in a message about something that it lacks. -/
def Value.described (h : Heap) (v : Value) : String :=
  match v, v.typeHome? with
  | .none, _ => "None"
  | v, some home => home ++ "." ++ v.typeName h ++ " object"
  | v, .none => v.typeName h ++ " object"

/-- The most digits of an integer that is printed. -/
def printedDigits : Nat := 4300

/-- A number in decimal. -/
def intText (n : Int) : Except Fault String :=
  let digits := Nat.toDigits 10 n.natAbs
  if digits.length > printedDigits then
    .error .integerTooLarge
  else .ok (String.ofList (if n < 0 then '-' :: digits else digits))

/-- A number with a fraction. -/
def floatText (x : Float) : String := String.ofList (Decimal.floatText x)

/-- A part of a complex number, without a fraction that is zero. -/
def complexPart (x : Float) : List Char :=
  let cs := Decimal.floatText x
  (Text.dropLead? ['0', '.'] cs.reverse).elim cs List.reverse

/-- A complex number: the imaginary part alone, or both parts in parentheses. -/
def complexText (re im : Float) : String :=
  let imaginary := complexPart im
  String.ofList (
    if re == 0 && re.toBits == (0.0 : Float).toBits then imaginary ++ ['j']
    else
      let sign := if imaginary.head? == some '-' then [] else ['+']
      ['('] ++ complexPart re ++ sign ++ imaginary ++ ['j', ')'])

/-- The text of a loop. -/
def LoopState.text (l : LoopState) (length : Nat) : String :=
  "<LoopContext " ++ toString l.taken ++ "/" ++ toString length ++ ">"

/-- The class of a function. -/
def Function.text : Function → String
  | .range => "<class 'range'>"
  | .dict => "<class 'dict'>"
  | .cells => "<class 'jinja2.utils.Namespace'>"
  | .joiner => "<class 'jinja2.utils.Joiner'>"
  | .cycler => "<class 'jinja2.utils.Cycler'>"
  | .lipsum => "<function generate_lorem_ipsum>"

/-- The depth to which values are shown. -/
def shownDepth : Nat := 900

/-- Texts between two marks. -/
def enclosed (start finish : String) (parts : List String) : String :=
  start ++ ", ".intercalate parts ++ finish

/-- A value as it is written inside of another one; `open_` holds the lists and dictionaries
around it. -/
def Value.literalIn (h : Heap) : Nat → List Value → Value → Except Fault String
  | 0, _, _ => .error ⟨.recursion, Fault.tooDeep.message ++ " while getting the repr of an object"⟩
  | fuel + 1, open_, v => do
    let items (vs : List Value) : Except Fault (List String) := vs.mapM (literalIn h fuel open_)
    let pairs (ps : List (Value × Value)) (open_ : List Value) : Except Fault (List String) :=
      ps.mapM fun (k, v) =>
        return (← literalIn h fuel open_ k) ++ ": " ++ (← literalIn h fuel open_ v)
    match v with
    | .none => return "None"
    | .bool b => return if b then "True" else "False"
    | .int n => intText n
    | .float x => return floatText x
    | .nan _ => return "nan"
    | .complex re im => return complexText re im
    | .text s => return Text.quotedString s
    | .markup s => return "Markup(" ++ Text.quotedString s ++ ")"
    | .tuple [v] => return "(" ++ (← literalIn h fuel open_ v) ++ ",)"
    | .tuple vs => return enclosed "(" ")" (← items vs)
    | .group key vs => return enclosed "(" ")" (← items [key, vs])
    | .range start stop 1 => return enclosed "range(" ")" [← intText start, ← intText stop]
    | .range start stop step =>
      return enclosed "range(" ")" [← intText start, ← intText stop, ← intText step]
    | .list place =>
      -- a list inside of itself would have no end
      if open_.any (fun | .list p => p == place | _ => false) then return "[...]"
      let open_ := v :: open_
      return enclosed "[" "]" (← (h.lists.getD place []).mapM (literalIn h fuel open_))
    | .dict place =>
      if open_.any (fun | .dict p => p == place | _ => false) then return "\x7b...\x7d"
      return enclosed "\x7b" "\x7d" (← pairs (h.dicts.getD place []) (v :: open_))
    | .dictView part place =>
      let ps := h.dicts.getD place []
      let parts ← match part with
        | .items => ps.mapM fun (k, v) => literalIn h fuel open_ (.tuple [k, v])
        | .keys => ps.mapM fun (k, _) => literalIn h fuel open_ k
        | .values => ps.mapM fun (_, v) => literalIn h fuel open_ v
      return enclosed (part.typeName ++ "([") "])" parts
    | .cells place =>
      let ps := (h.cells.getD place []).map fun (k, v) => (Value.text k, v)
      return "<Namespace " ++ enclosed "\x7b" "\x7d" (← pairs ps open_) ++ ">"
    | .cursor _ => return "<" ++ v.typeName h ++ " object>"
    | .joiner _ => return "<jinja2.utils.Joiner object>"
    | .cycler _ => return "<jinja2.utils.Cycler object>"
    | .loop place =>
      let l := h.loops.getD place default
      return l.text (l.length.getD l.taken)
    | .routine place =>
      match (h.routines.getD place default).name with
      | some name => return "<Macro " ++ Text.quotedString name ++ ">"
      | .none => return "<Macro anonymous>"
    | .module place =>
      return "<TemplateModule " ++ Text.quotedString (h.modules.getD place default).name ++ ">"
    | .blocks context =>
      let name := (h.contexts.getD context default).name
      return "<TemplateReference " ++ Text.quotedString name ++ ">"
    | .block _ _ _ => return "<jinja2.runtime.BlockReference object>"
    | .function f => return f.text
    | .method receiver name =>
      return "<built-in method " ++ name ++ " of " ++ receiver.typeName h ++ " object>"
    | .undefined _ _ => return "Undefined"

/-- A value as it is written in an expression. -/
def Value.literal (h : Heap) (v : Value) : Except Fault String := v.literalIn h shownDepth []

/-- A value as it is printed. -/
def Value.display (h : Heap) : Value → Except Fault String
  | .text s => .ok s
  | .markup s => .ok s
  | .module place => joinPrinted (h.modules.getD place default).printed
  | .undefined _ true => .ok ""
  | .undefined message false => .error ⟨.undefined, message⟩
  | v => v.literal h

namespace Eval

/-- The name of the type of a value. -/
def typeName (v : Value) : Eval String := return v.typeName (← get)

/-- The name of the type of a value where `None` is called by its own name. -/
def shortTypeName (v : Value) : Eval String :=
  match v with
  | .none => return "None"
  | v => typeName v

/-- Ends with a fault about the types of values. -/
def failType {α : Type} (message : String) : Eval α := fail .type message

/-- Ends because nothing was used. -/
def failUndefined {α : Type} (message : String) : Eval α := fail .undefined message

end Eval
end ApiScribe.Template
