import ApiScribe.Template.Signature
import ApiScribe.Text.Printable

/-!
# Methods of texts

What a method makes of a text that needs no escaping needs none either; what is put into such a
text is escaped.
-/

namespace ApiScribe.Template

/-- A text that a method is called on. -/
structure Receiver where
  chars : List Char
  /-- The text needs no escaping. -/
  safe : Bool

namespace Receiver

/-- A text of the same kind. -/
def like (r : Receiver) (cs : List Char) : Value :=
  if r.safe then .markup (String.ofList cs) else .text (String.ofList cs)

/-- A list of texts of the same kind. -/
def pieces (r : Receiver) (found : List (List Char)) : Eval Value := Eval.newList (found.map r.like)

end Receiver

namespace Eval

/-- A length up to which a text is filled up. -/
def widthArgument (v : Value) : Eval Nat := do
  let n ← sizeArgument v
  if n.toNat ≤ sizeLimit then return n.toNat else fail .memory ""

/-- The ends between which a text is searched. -/
def searchEnds (ends : List Value) : Eval (Int × Option Int) := do
  let start ← sliceEnd? (ends.headD .none)
  return (start.getD 0, ← sliceEnd? ((ends.drop 1).headD .none))

/-- The part of a text that is searched and the place where it begins; none if it begins behind
its end. -/
def searched (cs : List Char) (ends : Int × Option Int) : Option (Nat × List Char) :=
  let fit (i : Int) : Int := if i < 0 then max 0 (i + cs.length) else i
  let start := fit ends.1
  let stop := min (fit (ends.2.getD cs.length)) cs.length
  if stop < start then none
  else some (start.toNat, (cs.take stop.toNat).drop start.toNat)

/-- The pieces of a text. -/
def splitText (m : MethodName) (fromEnd : Bool) (cs : List Char) (args : Actuals) :
    Eval (List (List Char)) := do
  let found ← namedArguments m ["sep", "maxsplit"] args
  let separator := (found.headD none).getD .none
  let limit ← limitArgument ((found.drop 1).headD none)
  match separator with
  | .none =>
    if fromEnd then
      -- from the end is from the start of the reversed text, with all pieces reversed
      let pieces := Text.splitWords (cs.length + 1) limit cs.reverse
      return (pieces.map List.reverse).reverse
    else return Text.splitWords (cs.length + 1) limit cs
  | v =>
    match v.string? with
    | none => failType ("must be str or None, not " ++ (← typeName v))
    | some s =>
      if s.isEmpty then fail .value "empty separator"
      return if fromEnd then Text.splitLast s.toList limit cs else Text.split s.toList limit cs

/-- A text between texts, all of which have to be texts. -/
def joinTexts (separator : List Char) (items : List Value) : Eval (List Char) := do
  let pieces ← items.zipIdx.mapM fun (v, i) => do
    match v.string? with
    | some s => return s.toList
    | none => failType ("sequence item " ++ toString i ++ ": expected str instance, " ++
        (← typeName v) ++ " found")
  return Text.join separator pieces

/-- A text without characters at its start or end. -/
def stripText (m : MethodName) (atStart atEnd : Bool) (cs : List Char) (args : Actuals) :
    Eval (List Char) := do
  let p ← match ← someArguments m 0 1 args with
    | [] => pure Text.isBlank
    | v :: _ =>
      match v, v.string? with
      | .none, _ => pure Text.isBlank
      | _, some s => pure fun c => s.toList.contains c
      | _, none => failType (m.name ++ " arg must be None or str")
  let cs := if atStart then Text.trimStart p cs else cs
  return if atEnd then Text.trimEnd p cs else cs

/-- A test holds for one of several texts, the first of which it is asked for first. -/
def anyEdge (m : MethodName) (test : List Char → Bool) : List Value → Eval Bool
  | [] => return false
  | v :: vs => do
    match v.string? with
    | some s => if test s.toList then return true else anyEdge m test vs
    | none => failType ("tuple for " ++ m.name ++ " must only contain str, not " ++ (← typeName v))

/-- A text begins or ends with one of several texts. -/
def edgeTest (m : MethodName) (test : List Char → List Char → Bool) (cs : List Char)
    (args : Actuals) : Eval Value := do
  let (v, ends) ← searchArguments m args
  let part := searched cs (← searchEnds ends)
  let holds (edge : List Char) : Bool := part.any fun (_, part) => test edge part
  match v.string?, v.tuple? with
  | some s, _ => return .bool (holds s.toList)
  | none, some edges => return .bool (← anyEdge m holds edges)
  | none, none => failType (m.name ++ " first arg must be str or a tuple of str, not " ++
      (← typeName v))

/-- A text filled up to a width. -/
def padText (m : MethodName) (pad : Nat → Char → List Char → List Char) (cs : List Char)
    (args : Actuals) : Eval (List Char) := do
  let found ← someArguments m 1 2 args
  let width ← sizeArgument (found.headD .none)
  let fill ← match found.drop 1 with
    | [] => pure ' '
    | v :: _ =>
      match v.string?.map String.toList with
      | some [c] => pure c
      | some _ => failType "The fill character must be exactly one character long"
      | none => failType ("The fill character must be a unicode character, not " ++
          (← typeName v))
  return pad (← widthArgument (.int width)) fill cs

/-- A text in three parts. -/
def partitionText (m : MethodName) (fromEnd : Bool) (r : Receiver) (args : Actuals) :
    Eval Value := do
  let mark ← textArgument (← oneArgument m args)
  if mark.isEmpty then fail .value "empty separator"
  let place := if fromEnd then Text.findLast? mark r.chars else Text.find? mark r.chars
  let parts := match place with
    | some n => [r.chars.take n, mark, r.chars.drop (n + mark.length)]
    | none => if fromEnd then [[], [], r.chars] else [r.chars, [], []]
  return .tuple (parts.map r.like)

/-- The place of a text in a text. -/
def placeOf (m : MethodName) (find : List Char → List Char → Option Nat) (cs : List Char)
    (args : Actuals) : Eval (Option Nat) := do
  let (v, ends) ← searchArguments m args
  let ends ← searchEnds ends
  let mark ← textArgument v
  return (searched cs ends).bind fun (start, part) => (find mark part).map (start + ·)

/-- Puts a text for the first occurrences of another one. -/
def replaceIn (m : MethodName) (cs : List Char) (args : Actuals) : Eval (List Char) := do
  let part (i : String) (v : Value) : Eval (List Char) := do
    match v.string? with
    | some s => return s.toList
    | none => failType ("replace() argument " ++ i ++ " must be str, not " ++ (← shortTypeName v))
  match ← someArguments m 2 3 args with
  | old :: new :: more =>
    let old ← part "1" old
    let new ← part "2" new
    return Text.replace old new (← limitArgument more.head?) cs
  | _ => return cs

/-- A text without a text at its start or end. -/
def withoutEdge (m : MethodName) (drop : List Char → List Char) (args : Actuals) :
    Eval (List Char) := do
  let v ← oneArgument m args
  match v.string? with
  | some s => return drop s.toList
  | none => failType (m.name ++ "() argument must be str, not " ++ (← shortTypeName v))

/-- The size of a tabulator. -/
def tabArgument (m : MethodName) (args : Actuals) : Eval Nat := do
  let found ← namedArguments m ["tabsize"] args
  return (← smallArgument ((found.headD none).getD (.int 8))).toNat

/-- Calls a method of a text. -/
def callText (r : Receiver) (name : String) (args : Actuals) : Eval Value := do
  let m : MethodName := ⟨"str", name⟩
  let cs := r.chars
  let plain (f : List Char → List Char) : Eval Value := do
    noArguments m args
    return r.like (f cs)
  let asks (p : List Char → Bool) : Eval Value := do
    noArguments m args
    return .bool (p cs)
  let asksAll (p : Char → Bool) : Eval Value := asks fun cs => !cs.isEmpty && cs.all p
  let found (n : Option Nat) : Eval Value :=
    match n with
    | some n => return .int n
    | none => fail .value "substring not found"
  match name with
  | "upper" => plain Text.upper
  | "lower" => plain Text.lower
  | "title" => plain Text.titleWords
  | "capitalize" => plain Text.capitalize
  | "swapcase" => plain Text.swapCase
  | "casefold" => plain Text.foldCase
  | "isupper" => asks Text.isAllCapital
  | "islower" => asks Text.isAllSmall
  | "istitle" => asks Text.isTitled
  | "isspace" => asksAll Text.isBlank
  | "isascii" => asks fun cs => cs.all fun c => c.toNat < 128
  | "isalpha" => asksAll Text.isLetter
  | "isalnum" => asksAll Text.isAlphanumeric
  | "isdecimal" => asksAll fun c => (Text.decimalDigit? c).isSome
  | "isdigit" => asksAll Text.isDigitSign
  | "isnumeric" => asksAll Text.isNumeric
  | "isprintable" => asks fun cs => cs.all Text.isPrintable
  | "isidentifier" => asks Text.isIdentifier
  | "strip" => return r.like (← stripText m true true cs args)
  | "lstrip" => return r.like (← stripText m true false cs args)
  | "rstrip" => return r.like (← stripText m false true cs args)
  | "split" => do r.pieces (← splitText m false cs args)
  | "rsplit" => do r.pieces (← splitText m true cs args)
  | "splitlines" =>
    let found ← namedArguments m ["keepends"] args
    let keep ← smallArgument ((found.headD none).getD (.bool false))
    r.pieces (Text.lines (keep != 0) cs)
  | "join" =>
    let items ← walk (← oneArgument m args) "can only join an iterable"
    return r.like (← joinTexts cs items)
  | "replace" => return r.like (← replaceIn m cs args)
  | "startswith" => edgeTest m Text.startsWith cs args
  | "endswith" => edgeTest m Text.endsWith cs args
  | "find" => return .int ((← placeOf m Text.find? cs args).elim (-1) Int.ofNat)
  | "rfind" => return .int ((← placeOf m Text.findLast? cs args).elim (-1) Int.ofNat)
  | "index" => found (← placeOf m Text.find? cs args)
  | "rindex" => found (← placeOf m Text.findLast? cs args)
  | "count" =>
    let (v, ends) ← searchArguments m args
    let ends ← searchEnds ends
    let mark ← textArgument v
    return .int ((searched cs ends).elim 0 fun (_, part) => Text.occurrences mark part)
  | "zfill" => return r.like (Text.fillZeros (← widthArgument (← oneArgument m args)) cs)
  | "expandtabs" => return r.like (Text.expandTabs (← tabArgument m args) 0 cs)
  | "center" => return r.like (← padText m Text.center cs args)
  | "ljust" => return r.like (← padText m (fun width fill cs =>
      cs ++ List.replicate (width - cs.length) fill) cs args)
  | "rjust" => return r.like (← padText m (fun width fill cs =>
      List.replicate (width - cs.length) fill ++ cs) cs args)
  | "partition" => partitionText m false r args
  | "rpartition" => partitionText m true r args
  | "removeprefix" => return r.like (← withoutEdge m (fun edge =>
      (Text.dropLead? edge cs).getD cs) args)
  | "removesuffix" => return r.like (← withoutEdge m (fun edge =>
      ((Text.dropLead? edge.reverse cs.reverse).map List.reverse).getD cs) args)
  | _ => unsupportedMethod m

/-! ### Texts that need no escaping -/

/-- The parameters of the methods whose results need no escaping. -/
def safeParameters? : String → Option (List (String × Option Value))
  | "capitalize" => some []
  | "casefold" => some []
  | "center" => some padding
  | "expandtabs" => some [("tabsize", some (.int 8))]
  | "join" => some [("iterable", none)]
  | "ljust" => some padding
  | "lower" => some []
  | "lstrip" => some [("chars", some .none)]
  | "partition" => some [("sep", none)]
  | "removeprefix" => some [("prefix", none)]
  | "removesuffix" => some [("suffix", none)]
  | "replace" => some [("old", none), ("new", none), ("count", some (.int (-1)))]
  | "rjust" => some padding
  | "rpartition" => some [("sep", none)]
  | "rsplit" => some splitting
  | "rstrip" => some [("chars", some .none)]
  | "split" => some splitting
  | "splitlines" => some [("keepends", some (.bool false))]
  | "strip" => some [("chars", some .none)]
  | "swapcase" => some []
  | "title" => some []
  | "upper" => some []
  | "zfill" => some [("width", none)]
  | _ => none
where
  /-- The parameters of a method that fills a text up. -/
  padding : List (String × Option Value) := [("width", none), ("fillchar", some (.text " "))]
  /-- The parameters of a method that cuts a text. -/
  splitting : List (String × Option Value) := [("sep", some .none), ("maxsplit", some (.int (-1)))]

/-- The methods of which a parameter has no name for its callers. -/
def placedOnly (name : String) : Bool :=
  ["expandtabs", "rsplit", "split", "splitlines"].all (· != name)

/-- A value as a text that needs no escaping. -/
def escaped (v : Value) : Eval Value := do
  match v with
  | .markup s => return .markup s
  | .module _ => return .markup (← display v)
  | v => return .markup (escapeMarkup (← display v))

/-- The arguments of a method with those escaped that become part of the text. -/
def escapeArguments (name : String) (args : List Value) : Eval (List Value) := do
  match name, args with
  | "join", [v] => do
    let items ← itemsOf v
    return [.tuple (← items.mapM escaped)]
  | "replace", [old, new, count] => return [old, ← escaped new, count]
  | name, args =>
    if ["center", "ljust", "rjust"].contains name then
      match args with
      | [width, fill] => return [width, ← escaped fill]
      | args => return args
    else return args

/-- Refuses names for parameters that have none. -/
def checkPlaced (type name : String) (parameters args : List String) : Eval Unit := do
  match args.filter parameters.contains with
  | [] => return
  | names => failType (type ++ "." ++ name ++
      "() got some positional-only arguments passed as keyword arguments: '" ++
      ", ".intercalate names ++ "'")

/-- Calls a method of a text that needs no escaping. -/
def callMarkup (s : String) (name : String) (args : Actuals) : Eval Value := do
  let r : Receiver := ⟨s.toList, true⟩
  match safeParameters? name with
  | none => callText r name args
  | some parameters =>
    if placedOnly name then
      checkPlaced "Markup" name (parameters.map (·.1)) (args.named.map (·.1))
    -- the parameters are bound first, so that those to be escaped are found by their places
    let values ← (⟨"Markup." ++ name, 1, parameters⟩ : Signature).bind args
    callText r name ⟨← escapeArguments name values, []⟩

end Eval
end ApiScribe.Template
