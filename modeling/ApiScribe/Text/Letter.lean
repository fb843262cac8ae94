import ApiScribe.Text.Identifier
import ApiScribe.Text.Number

/-!
# Letters and numbers

The letters and the number signs of Unicode 14.  A letter is nearly always what an identifier may
start with, so only the differences are listed; a number sign is a decimal digit, another digit, or
a sign for a number that is no digit.

A word is what a reader takes for one name before asking whether it is an identifier: letters,
number signs, underscores, and the marks that identifiers had in Unicode 9.
-/

namespace ApiScribe.Text

/-- What may start an identifier and is no letter. -/
def letterNumbers : CodePoints := .read
  ["16ee-16f0 1885-1886 2118 212e 2160-2182 2185-2188 3007 3021-3029 3038-303a a6e6-a6ef",
   "10140-10174 10341 1034a 103d1-103d5 12400-1246e"]

/-- The letters that no identifier starts with. -/
def boundLetters : CodePoints := .read
  ["37a e33 eb3 2e2f fc5e-fc63 fdfa-fdfb fe70 fe72 fe74 fe76 fe78 fe7a fe7c fe7e ff9e-ff9f"]

/-- The digits that are not decimal digits. -/
def digitSigns : CodePoints := .read
  ["b2-b3 b9 1369-1371 19da 2070 2074-2079 2080-2089 2460-2468 2474-247c 2488-2490 24ea",
   "24f5-24fd 24ff 2776-277e 2780-2788 278a-2792 10a40-10a43 10e60-10e68 11052-1105a",
   "1f100-1f10a"]

/-- The signs for numbers that are no digits. -/
def numericSigns : CodePoints := .read
  ["bc-be 9f4-9f9 b72-b77 bf0-bf2 c78-c7e d58-d5e d70-d78 f2a-f33 1372-137c 16ee-16f0",
   "17f0-17f9 2150-2182 2185-2189 2469-2473 247d-2487 2491-249b 24eb-24f4 24fe 277f 2789",
   "2793 2cfd 3007 3021-3029 3038-303a 3192-3195 3220-3229 3248-324f 3251-325f 3280-3289",
   "32b1-32bf 3405 3483 382a 3b4d 4e00 4e03 4e07 4e09 4e5d 4e8c 4e94 4e96 4ebf-4ec0 4edf",
   "4ee8 4f0d 4f70 5104 5146 5169 516b 516d 5341 5343-5345 534c 53c1-53c4 56db 58f1 58f9",
   "5e7a 5efe-5eff 5f0c-5f0e 5f10 62fe 634c 67d2 6f06 7396 767e 8086 842c 8cae 8cb3 8d30",
   "9621 9646 964c 9678 96f6 a6e6-a6ef a830-a835 f96b f973 f978 f9b2 f9d1 f9d3 f9fd",
   "10107-10133 10140-10178 1018a-1018b 102e1-102fb 10320-10323 10341 1034a 103d1-103d5",
   "10858-1085f 10879-1087f 108a7-108af 108fb-108ff 10916-1091b 109bc-109bd 109c0-109cf",
   "109d2-109ff 10a44-10a48 10a7d-10a7e 10a9d-10a9f 10aeb-10aef 10b58-10b5f 10b78-10b7f",
   "10ba9-10baf 10cfa-10cff 10e69-10e7e 10f1d-10f26 10f51-10f54 10fc5-10fcb 1105b-11065",
   "111e1-111f4 1173a-1173b 118ea-118f2 11c5a-11c6c 11fc0-11fd4 12400-1246e 16b5b-16b61",
   "16e80-16e96 1d2e0-1d2f3 1d360-1d378 1e8c7-1e8cf 1ec71-1ecab 1ecad-1ecaf 1ecb1-1ecb4",
   "1ed01-1ed2d 1ed2f-1ed3d 1f10b-1f10c 20001 20064 200e2 20121 2092a 20983 2098c 2099c",
   "20aea 20afd 20b19 22390 22998 23b1b 2626d 2f890"]

/-- What may stand inside an identifier, but not inside a word: the marks that are younger than
Unicode 9. -/
def youngMarks : CodePoints := .read
  ["7fd 898-89f 8ca-8d3 9fe afa-aff b55 c04 c3c d00 d3b-d3c d81 eba 1715 180f 1abf-1ace 1cf7",
   "1df6-1dfa a82c a8ff 10d24-10d27 10eab-10eac 10f46-10f50 10f82-10f85 11070 11073-11074",
   "110c2 11145-11146 111ce-111cf 1133b 1145e 1182c-1183a 11930-11935 11937-11938 1193b-1193e",
   "11940 11942-11943 119d1-119d7 119da-119e0 119e4 11a01-11a0a 11a33-11a39 11a3b-11a3e 11a47",
   "11a51-11a5b 11a8a-11a99 11d31-11d36 11d3a 11d3c-11d3d 11d3f-11d45 11d47 11d8a-11d8e",
   "11d90-11d91 11d93-11d97 11ef3-11ef6 16f4f 16f7f-16f87 16fe4 16ff0-16ff1 1cf00-1cf2d",
   "1cf30-1cf46 1e130-1e136 1e2ae 1e2ec-1e2ef"]

/-- The character is a letter. -/
def isLetter (c : Char) : Bool :=
  if c.toNat < 0x80 then c.isAlpha
  else (identifierStarts.contains c && !letterNumbers.contains c) || boundLetters.contains c

/-- The character is a digit. -/
def isDigitSign (c : Char) : Bool := (decimalDigit? c).isSome || digitSigns.contains c

/-- The character stands for a number. -/
def isNumeric (c : Char) : Bool := isDigitSign c || numericSigns.contains c

/-- The character is a letter or stands for a number. -/
def isAlphanumeric (c : Char) : Bool := isLetter c || isNumeric c

/-- The character may stand inside a word. -/
def isWordPart (c : Char) : Bool :=
  if c.toNat < 0x80 then c.isAlphanum || c == '_'
  else isAlphanumeric c || (isIdentifierPart c && !youngMarks.contains c)

end ApiScribe.Text
