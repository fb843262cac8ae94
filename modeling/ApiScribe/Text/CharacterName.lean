import ApiScribe.Text.CharacterTable
import ApiScribe.Text.CodePoints

/-!
# Characters by name

A name is found in the table of names whatever the case of its letters.  The name of a Han
ideograph ends with its code point; the name of a Hangul syllable ends with its sounds.  These two
kinds of names are written in capitals.
-/

namespace ApiScribe.Text

/-! ### Listed names -/

/-- The text cut after each blank and hyphen. -/
def namePieces (cs : List Char) : List (List Char) :=
  cs.foldr (fun c pieces =>
    if c = ' ' ∨ c = '-' then [c] :: pieces
    else match pieces with
      | (d :: piece) :: more => (c :: d :: piece) :: more
      | _ => [[c]]) []

/-- The marks of a table, each with the text up to the next one. -/
def tableEntries (table : String) : List (Char × List Char) :=
  (table.toList.foldr (fun c ((text, entries) : List Char × List (Char × List Char)) =>
    if c = '\n' then (text, entries)
    else if c = '.' || c.isLower then ([], (c, text) :: entries)
    else (c :: text, entries)) ([], [])).2

/-- The code point of a name in a table.  `next` is the code point of the next name, and `before`
are the pieces of the name before it. -/
def findName (name : List Char) (next : Nat) (before : List (List Char)) :
    List (Char × List Char) → Option Nat
  | [] => none
  | (mark, text) :: entries =>
    if mark = '.' then findName name (hexValue text) before entries
    else
      let pieces := before.take (mark.toNat - 'a'.toNat) ++ namePieces text
      if pieces.flatten = name then some next else findName name (next + 1) pieces entries

/-- The code point of a listed name. -/
def listedName? (name : List Char) : Option Nat :=
  let name := name.map Char.toUpper
  (findName name 0 [] (tableEntries characterNames)).or
    (findName name 0 [] (tableEntries furtherNames))

/-! ### Names that follow from the code point -/

/-- The ideographs whose names end with their code points. -/
def ideographs : CodePoints := .read
  ["3400-4dbf 4e00-9fff 20000-2a6df 2a700-2b738 2b740-2b81d 2b820-2cea1 2ceb0-2ebe0 30000-3134a"]

/-- The ideograph with the given digits at the end of its name. -/
def ideograph? (digits : List Char) : Option Nat :=
  let isDigit (c : Char) : Bool := c.isDigit || ('A' ≤ c && c ≤ 'F')
  if (digits.length = 4 ∨ digits.length = 5) ∧ digits.all isDigit then
    let n := hexValue digits
    if ideographs.contains (Char.ofNat n) then some n else none
  else none

/-- The sounds that a syllable begins with. -/
def leadingSounds : List String :=
  ["G", "GG", "N", "D", "DD", "R", "M", "B", "BB", "S", "SS", "", "J", "JJ", "C", "K", "T", "P",
    "H"]

/-- The vowels of a syllable. -/
def vowels : List String :=
  ["A", "AE", "YA", "YAE", "EO", "E", "YEO", "YE", "O", "WA", "WAE", "OE", "YO", "U", "WEO", "WE",
    "WI", "YU", "EU", "YI", "I"]

/-- The sounds that a syllable ends with. -/
def trailingSounds : List String :=
  ["", "G", "GG", "GS", "N", "NJ", "NH", "D", "L", "LG", "LM", "LB", "LS", "LT", "LP", "LH", "M",
    "B", "BS", "S", "SS", "NG", "J", "C", "K", "T", "P", "H"]

/-- The sounds that a text begins with, by number, and what follows each. -/
def soundsOf (sounds : List String) (cs : List Char) : List (Nat × List Char) :=
  sounds.zipIdx.filterMap fun (sound, i) => (dropLead? sound.toList cs).map (i, ·)

/-- The syllable with the given sounds.  Syllables are numbered by their first sound, then by their
vowel, then by their last sound. -/
def syllable? (cs : List Char) : Option Nat :=
  let found := (soundsOf leadingSounds cs).flatMap fun (first, cs) =>
    (soundsOf vowels cs).flatMap fun (vowel, cs) =>
      (soundsOf trailingSounds cs).filterMap fun (last, cs) =>
        if cs.isEmpty then
          some (0xAC00 + (first * vowels.length + vowel) * trailingSounds.length + last)
        else none
  found.head?

/-- The character of a name. -/
def ofName? (name : List Char) : Option Char :=
  let found := match dropLead? "CJK UNIFIED IDEOGRAPH-".toList name with
    | some digits => ideograph? digits
    | none =>
      match dropLead? "HANGUL SYLLABLE ".toList name with
      | some sounds => syllable? sounds
      | none => listedName? name
  found.map Char.ofNat

end ApiScribe.Text
