import ApiScribe.Template.Filter.Number
import ApiScribe.Template.Filter.Sequence
import ApiScribe.Template.Filter.Text
import ApiScribe.Template.Test

/-!
# Filters

`v|f(a)` is the value of the filter `f` for the value `v` and further arguments.  A filter that
gives its items one after the other begins only when the first of them is asked for.

The filters `filesizeformat`, `pprint`, `striptags`, `tojson`, `truncate`, `urlencode`, `urlize`,
`wordwrap` and `xmlattr` are known, so a template may name them, and are not supported.
-/

namespace ApiScribe.Template
namespace Eval

/-- The signature of a filter that is not told of its surroundings. -/
def plain (name : String) (parameters : List (String × Option Value)) : Signature :=
  ⟨name, 0, parameters⟩

/-- The signature of a filter that is told of its surroundings. -/
def placed (name : String) (parameters : List (String × Option Value)) : Signature :=
  ⟨name, 1, parameters⟩

/-- A parameter without a default. -/
def needs (name : String) : String × Option Value := (name, none)

/-- A parameter with a default. -/
def takes (name : String) (v : Value) : String × Option Value := (name, some v)

/-- The signature of a filter that has one. -/
def signature? : String → Option Signature
  | "attr" => some (placed "do_attr" [needs "obj", needs "name"])
  | "batch" => some (plain "do_batch" [needs "value", needs "linecount", takes "fill_with" .none])
  | "capitalize" => some (plain "do_capitalize" [needs "s"])
  | "center" => some (plain "do_center" [needs "value", takes "width" (.int 80)])
  | "d" => some default_
  | "default" => some default_
  | "dictsort" => some (plain "do_dictsort" [needs "value", takes "case_sensitive" (.bool false),
      takes "by" (.text "key"), takes "reverse" (.bool false)])
  | "e" => some (plain "escape" [needs "s"])
  | "escape" => some (plain "escape" [needs "s"])
  | "first" => some (placed "sync_do_first" [needs "seq"])
  | "float" => some (plain "do_float" [needs "value", takes "default" (.float 0.0)])
  | "forceescape" => some (plain "do_forceescape" [needs "value"])
  | "groupby" => some (placed "sync_do_groupby" [needs "value", needs "attribute",
      takes "default" .none, takes "case_sensitive" (.bool false)])
  | "indent" => some (plain "do_indent" [needs "s", takes "width" (.int 4),
      takes "first" (.bool false), takes "blank" (.bool false)])
  | "int" => some (plain "do_int" [needs "value", takes "default" (.int 0), takes "base" (.int 10)])
  | "items" => some (plain "do_items" [needs "value"])
  | "join" => some (placed "sync_do_join" [needs "value", takes "d" (.text ""),
      takes "attribute" .none])
  | "last" => some (placed "do_last" [needs "seq"])
  | "list" => some (plain "sync_do_list" [needs "value"])
  | "lower" => some (plain "do_lower" [needs "s"])
  | "max" => some (placed "do_max" [needs "value", takes "case_sensitive" (.bool false),
      takes "attribute" .none])
  | "min" => some (placed "do_min" [needs "value", takes "case_sensitive" (.bool false),
      takes "attribute" .none])
  | "random" => some (placed "do_random" [needs "seq"])
  | "replace" => some (placed "do_replace" [needs "s", needs "old", needs "new",
      takes "count" .none])
  | "reverse" => some (plain "do_reverse" [needs "value"])
  | "round" => some (plain "do_round" [needs "value", takes "precision" (.int 0),
      takes "method" (.text "common")])
  | "safe" => some (plain "do_mark_safe" [needs "value"])
  | "slice" => some (plain "sync_do_slice" [needs "value", needs "slices",
      takes "fill_with" .none])
  | "sort" => some (placed "do_sort" [needs "value", takes "reverse" (.bool false),
      takes "case_sensitive" (.bool false), takes "attribute" .none])
  | "string" => some (plain "soft_str" [needs "s"])
  | "sum" => some (placed "sync_do_sum" [needs "iterable", takes "attribute" .none,
      takes "start" (.int 0)])
  | "title" => some (plain "do_title" [needs "s"])
  | "trim" => some (plain "do_trim" [needs "value", takes "chars" .none])
  | "unique" => some (placed "do_unique" [needs "value", takes "case_sensitive" (.bool false),
      takes "attribute" .none])
  | "upper" => some (plain "do_upper" [needs "s"])
  | "wordcount" => some (plain "do_wordcount" [needs "s"])
  | _ => none
where
  /-- The signature of the filter for values that may be nothing. -/
  default_ : Signature := plain "do_default" [needs "value", takes "default_value" (.text ""),
    takes "boolean" (.bool false)]

/-- A filter that gives its items one after the other. -/
def later (name : String) (args : Actuals) : Eval Value :=
  return .cursor (← newCursor (.waiting name args))

/-- Ends because a filter is not supported. -/
def unsupportedFilter (name : String) : Eval Value :=
  throw (.unsupported ("The filter " ++ Text.quotedString name))

/-- The value of a filter with one parameter. -/
def withOne (name : String) (f : Value → Eval Value) (values : List Value) : Eval Value :=
  match values with
  | [a] => f a
  | _ => unsupportedFilter name

/-- The value of a filter with two parameters. -/
def withTwo (name : String) (f : Value → Value → Eval Value) (values : List Value) : Eval Value :=
  match values with
  | [a, b] => f a b
  | _ => unsupportedFilter name

/-- The value of a filter with three parameters. -/
def withThree (name : String) (f : Value → Value → Value → Eval Value) (values : List Value) :
    Eval Value :=
  match values with
  | [a, b, c] => f a b c
  | _ => unsupportedFilter name

/-- The value of a filter with four parameters. -/
def withFour (name : String) (f : Value → Value → Value → Value → Eval Value)
    (values : List Value) : Eval Value :=
  match values with
  | [a, b, c, d] => f a b c d
  | _ => unsupportedFilter name

/-- The attribute that a value names. -/
def namedAttribute (v key : Value) : Eval Value := do
  match key.string? with
  | some name =>
    match ← attribute? v name with
    | some found => return found
    | none => lacksMember v name
  | none => failType ("attribute name must be string, not " ++ Text.quotedString (← typeName key))

/-- Calls a method of a value as a text. -/
def textMethod (name : String) (args : List Value) (v : Value) : Eval Value := do
  callMethod (← asText v) name ⟨args, []⟩

/-- A value, or a fallback if it is nothing; `always` asks for one that counts as true. -/
def orElse (v fallback always : Value) : Eval Value := do
  match v with
  | .undefined _ _ => return fallback
  | v =>
    if ← isTrue always then
      if ← isTrue v then return v else return fallback
    else return v

/-- The value of a filter for the values of its parameters. -/
def runFilter (name : String) (values : List Value) : Eval Value := do
  match name with
  | "attr" => withTwo name namedAttribute values
  | "batch" => later name ⟨values, []⟩
  | "capitalize" => withOne name (textMethod "capitalize" []) values
  | "center" => withTwo name (fun v width => textMethod "center" [width] v) values
  | "d" => withThree name orElse values
  | "default" => withThree name orElse values
  | "dictsort" => withFour name sortPairs values
  | "e" => withOne name escaped values
  | "escape" => withOne name escaped values
  | "first" => withOne name firstItem values
  | "float" => withTwo name toFraction values
  | "forceescape" => withOne name (fun v => do return .markup (escapeMarkup (← display v))) values
  | "groupby" => withFour name groupBy values
  | "indent" => withFour name indent values
  | "int" => withThree name toInteger values
  | "items" => later name ⟨values, []⟩
  | "join" => withThree name joinItems values
  | "last" => withOne name lastItem values
  | "list" => withOne name (fun v => do newList (← itemsOf v)) values
  | "lower" => withOne name (textMethod "lower" []) values
  | "max" => withThree name (extreme .gt) values
  | "min" => withThree name (extreme .lt) values
  | "random" => withOne name anyItem values
  | "replace" => withFour name replaceText values
  | "reverse" => withOne name reverseItems values
  | "round" => withThree name round values
  | "safe" => withOne name (fun v => do return .markup (← display v)) values
  | "slice" => later name ⟨values, []⟩
  | "sort" => withFour name sort values
  | "string" => withOne name asText values
  | "sum" => withThree name sum values
  | "title" => withOne name (fun v => do return ofChars (titleFrom [] (← charsOf v))) values
  | "trim" => withTwo name (fun v chars => textMethod "strip" [chars] v) values
  | "unique" => later name ⟨values, []⟩
  | "upper" => withOne name (textMethod "upper" []) values
  | "wordcount" => withOne name (fun v => do return .int (wordCount (← charsOf v))) values
  | name => unsupportedFilter name

/-- Applies a filter that exists. -/
def applyFilter (name : String) (v : Value) (args : Actuals) : Eval Value := do
  -- what is filtered counts as the first argument
  let args := args.after v
  let sized : Eval Value := do
    onlyArgument "len" args
    return .int (← length v)
  match name with
  | "abs" =>
    onlyArgument "abs" args
    absolute v
  | "count" => sized
  | "length" => sized
  | "format" => formatText v { args with positional := args.positional.drop 1 }
  | "map" => later name args
  | "select" => later name args
  | "reject" => later name args
  | "selectattr" => later name args
  | "rejectattr" => later name args
  | name =>
    match signature? name with
    | some s => runFilter name (← s.bind args)
    | none => unsupportedFilter name

/-- The function behind a filter, as it is named in messages. -/
def filterFunction (name : String) : String :=
  match name with
  | "abs" => "abs()"
  | "count" => "len()"
  | "length" => "len()"
  | "e" => "markupsafe.escape()"
  | "escape" => "markupsafe.escape()"
  | "string" => "markupsafe.soft_str()"
  | "safe" => "jinja2.filters.do_mark_safe()"
  | "d" => "jinja2.filters.do_default()"
  | name => "jinja2.filters.do_" ++ name ++ "()"

/-- The message for a filter or test that does not exist. -/
def unknownName (kind : String) (v : Value) : Eval String :=
  return "No " ++ kind ++ " named " ++ (← literal v) ++ "."

/-- Applies the filter that a value names. -/
def applyNamedFilter (filter v : Value) (args : Actuals) : Eval Value := do
  reading (filter.checkKey ·)
  match filter.string? with
  | some name =>
    if filterNames.contains name then applyFilter name v args
    else fail .runtime (← unknownName "filter" filter)
  | none => fail .runtime (← unknownName "filter" filter)

/-- Applies the test that a value names. -/
def runNamedTest (test v : Value) (args : Actuals) : Eval Bool := do
  reading (test.checkKey ·)
  match test.string? with
  | some name =>
    if testNames.contains name then runTest name v args
    else fail .runtime (← unknownName "test" test)
  | none => fail .runtime (← unknownName "test" test)

end Eval
end ApiScribe.Template
