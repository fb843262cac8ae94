/-!
# Names that every template knows
-/

namespace ApiScribe.Template

/-- The names that have a value without being assigned to. -/
def globalNames : List String := ["range", "dict", "lipsum", "cycler", "joiner", "namespace"]

/-- The names of the filters. -/
def filterNames : List String :=
  ["abs", "attr", "batch", "capitalize", "center", "count", "d", "default", "dictsort", "e",
    "escape", "filesizeformat", "first", "float", "forceescape", "format", "groupby", "indent",
    "int", "items", "join", "last", "length", "list", "lower", "map", "max", "min", "pprint",
    "random", "reject", "rejectattr", "replace", "reverse", "round", "safe", "select",
    "selectattr", "slice", "sort", "string", "striptags", "sum", "title", "tojson", "trim",
    "truncate", "unique", "upper", "urlencode", "urlize", "wordcount", "wordwrap", "xmlattr"]

/-- The names of the tests. -/
def testNames : List String :=
  ["!=", "<", "<=", "==", ">", ">=", "boolean", "callable", "defined", "divisibleby", "eq",
    "equalto", "escaped", "even", "false", "filter", "float", "ge", "greaterthan", "gt", "in",
    "integer", "iterable", "le", "lessthan", "lower", "lt", "mapping", "ne", "none", "number",
    "odd", "sameas", "sequence", "string", "test", "true", "undefined", "upper"]

end ApiScribe.Template
