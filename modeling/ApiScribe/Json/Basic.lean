import ApiScribe.Decimal.Shortest
import ApiScribe.Text.Quoted

/-!
# JSON values

Integers and floats are told apart, and an object keeps the order of its members.  A JSON text may
also spell a string with a surrogate that has no partner; such a string is no Unicode text and is
kept as its code points.
-/

namespace ApiScribe

/-- The name of a member of a JSON object. -/
inductive Json.Name where
  | text (s : String)
  /-- A name that holds a surrogate without its partner. -/
  | unpaired (points : List Nat)
  deriving DecidableEq, Inhabited

instance : Coe String Json.Name := ⟨.text⟩

/-- A JSON value. -/
inductive Json where
  | null
  | bool (b : Bool)
  | int (n : Int)
  | float (x : Float)
  | string (s : String)
  /-- A string that holds a surrogate without its partner. -/
  | unpaired (points : List Nat)
  | array (items : List Json)
  | object (members : List (Json.Name × Json))
  deriving Inhabited

namespace Json

/-- Whether a number is a code point of a character. -/
def isScalar (n : Nat) : Bool := n < 0xD800 || (0xDFFF < n && n < 0x110000)

/-- The string of the given code points. -/
def ofCodePoints (points : List Nat) : Json :=
  if points.all isScalar then .string (String.ofList (points.map Char.ofNat)) else .unpaired points

/-- The characters of code points; a replacement character stands for a lone surrogate. -/
def characters (points : List Nat) : List Char :=
  points.map fun n => if isScalar n then Char.ofNat n else '\uFFFD'

/-- The text of code points in which a lone surrogate is replaced.  Points that differ in their lone
surrogates only have the same text. -/
def replaceUnpaired (points : List Nat) : String := String.ofList (characters points)

/-- The name of the given code points. -/
def Name.ofCodePoints (points : List Nat) : Name :=
  if points.all isScalar then .text (String.ofList (points.map Char.ofNat)) else .unpaired points

/-- The name as a text; a lone surrogate is replaced. -/
def Name.toText : Name → String
  | .text s => s
  | .unpaired points => replaceUnpaired points

/-- Sets a member: a new one comes last, an old one keeps its place. -/
def setMember (name : Name) (value : Json) : List (Name × Json) → List (Name × Json)
  | [] => [(name, value)]
  | (n, v) :: rest =>
    if n = name then (n, value) :: rest else (n, v) :: setMember name value rest

/-- The object in which the last of several members of one name wins. -/
def ofMembers (members : List (Name × Json)) : Json :=
  .object (members.foldl (fun acc (name, value) => setMember name value acc) [])

/-- The member of an object. -/
def member? (name : String) : Json → Option Json
  | .object members => members.lookup (.text name)
  | _ => none

/-- A signed decimal number. -/
def intText (n : Int) : List Char :=
  if n < 0 then '-' :: Nat.toDigits 10 n.natAbs else Nat.toDigits 10 n.natAbs

/-- Code points in quotes. -/
def quotedPoints (points : List Nat) : List Char :=
  let quote := Text.quoteFor (points.map Char.ofNat)
  quote :: (points.flatMap (fun n =>
    if isScalar n then Text.quotedChar quote (Char.ofNat n) else Text.numericEscape n) ++ [quote])

/-- The name as shown inside a message. -/
def Name.literal : Name → List Char
  | .text s => Text.quoted s.toList
  | .unpaired points => quotedPoints points

mutual

/-- The value as shown inside a message. -/
def literal : Json → List Char
  | .null => "None".toList
  | .bool b => if b then "True".toList else "False".toList
  | .int n => intText n
  | .float x => Decimal.floatText x
  | .string s => Text.quoted s.toList
  | .unpaired points => quotedPoints points
  | .array items => '[' :: (literalItems items ++ [']'])
  | .object members => '{' :: (literalMembers members ++ ['}'])

/-- Values separated by commas. -/
def literalItems : List Json → List Char
  | [] => []
  | [v] => literal v
  | v :: rest => literal v ++ ',' :: ' ' :: literalItems rest

/-- Members separated by commas. -/
def literalMembers : List (Name × Json) → List Char
  | [] => []
  | [(name, v)] => name.literal ++ ':' :: ' ' :: literal v
  | (name, v) :: rest =>
    name.literal ++ ':' :: ' ' :: (literal v ++ ',' :: ' ' :: literalMembers rest)

end

end Json
end ApiScribe
