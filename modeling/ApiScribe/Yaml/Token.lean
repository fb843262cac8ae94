/-!
# Tokens of YAML text

The layout of the text has already been turned into tokens that start and end block collections,
and a key that is written without an indicator has a `key` token before it.  The text of a scalar
is given by its code points, because an escape may spell half of a surrogate pair.
-/

namespace ApiScribe.Yaml

/-- A value that text of the right form stands for, but that does not exist. -/
inductive ValueFault where
  /-- Not an integer in the base. -/
  | notInteger (base : Nat) (text : String)
  | notFloat (text : String)
  | notBoolean (text : String)
  | notTimestamp
  | emptyNumber
  | integerTooLong (digits : Nat)
  | yearOutOfRange (year : Nat)
  | monthOutOfRange
  | dayOutOfRange
  | hourOutOfRange
  | minuteOutOfRange
  | secondOutOfRange
  /-- The distance from universal time is a day or more. -/
  | offsetOutOfRange (shown : String)
  | codePointOutOfRange
  deriving DecidableEq, Repr

/-- The fault in words. -/
def ValueFault.message : ValueFault → String
  | .notInteger base text =>
    "invalid literal for int() with base " ++ toString base ++ ": " ++ text
  | .notFloat text => "could not convert string to float: " ++ text
  | .notBoolean text => text
  | .notTimestamp => "'NoneType' object has no attribute 'groupdict'"
  | .emptyNumber => "string index out of range"
  | .integerTooLong digits =>
    "Exceeds the limit (4300 digits) for integer string conversion: value has " ++
      toString digits ++ " digits; use sys.set_int_max_str_digits() to increase the limit"
  | .yearOutOfRange year => "year " ++ toString year ++ " is out of range"
  | .monthOutOfRange => "month must be in 1..12"
  | .dayOutOfRange => "day is out of range for month"
  | .hourOutOfRange => "hour must be in 0..23"
  | .minuteOutOfRange => "minute must be in 0..59"
  | .secondOutOfRange => "second must be in 0..59"
  | .offsetOutOfRange shown =>
    "offset must be a timedelta strictly between -timedelta(hours=24) and timedelta(hours=24), " ++
      "not " ++ shown ++ "."
  | .codePointOutOfRange => "chr() arg not in range(0x110000)"

/-- Why a text has no value. -/
inductive Error where
  /-- It is not YAML, or holds what the data model has no value for. -/
  | malformed
  | value (fault : ValueFault)
  deriving DecidableEq, Repr

/-- A directive before a document. -/
inductive Directive where
  | version (major : Nat)
  | tagHandle (handle lead : List Char)
  | unknown
  deriving DecidableEq, Repr

/-- A token of YAML text. -/
inductive Token where
  | streamEnd
  | directive (d : Directive)
  | documentStart
  | documentEnd
  | blockSequenceStart
  | blockMappingStart
  | blockEnd
  | flowSequenceStart
  | flowSequenceEnd
  | flowMappingStart
  | flowMappingEnd
  | blockEntry
  | flowEntry
  | key
  | value
  | alias (name : List Char)
  | anchor (name : List Char)
  | tag (handle : Option (List Char)) (suffix : List Char)
  | scalar (text : List Nat) (plain : Bool)
  deriving DecidableEq, Repr

end ApiScribe.Yaml
