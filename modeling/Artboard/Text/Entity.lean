import Artboard.Text.CharacterNames

/-!
# Character entities

Markup characters are written as entities in text and in attribute values.
Reading them back takes one pass: what a reference produces is not read again. Of
several names that a text starts with the longest counts. References by number follow the rules of the markup language, which gives a
meaning to the codes between 128 and 159 and drops the codes of controls.
-/
namespace Artboard.Text

/-- Text content: ampersand and angle brackets. -/
def escapeContentChar : Char → List Char
  | '&' => "&amp;".toList
  | '<' => "&lt;".toList
  | '>' => "&gt;".toList
  | c => [c]

def escapeContent (text : List Char) : List Char := text.flatMap escapeContentChar

/-- As text content, with both quotes. -/
def escapeQuotesChar : Char → List Char
  | '"' => "&quot;".toList
  | '\'' => "&#x27;".toList
  | c => escapeContentChar c

def escapeQuotes (text : List Char) : List Char := text.flatMap escapeQuotesChar

/-- An attribute value: the opening angle bracket stays. -/
def escapeAttributeChar : Char → List Char
  | '&' => "&amp;".toList
  | '>' => "&gt;".toList
  | '"' => "&quot;".toList
  | c => [c]

def escapeAttribute (text : List Char) : List Char := text.flatMap escapeAttributeChar

/-- The characters meant by the codes 128 to 159. -/
def windowsCodes : List (Nat × Nat) :=
  [(0x80, 0x20ac), (0x82, 0x201a), (0x83, 0x0192), (0x84, 0x201e), (0x85, 0x2026), (0x86, 0x2020),
   (0x87, 0x2021), (0x88, 0x02c6), (0x89, 0x2030), (0x8a, 0x0160), (0x8b, 0x2039), (0x8c, 0x0152),
   (0x8e, 0x017d), (0x91, 0x2018), (0x92, 0x2019), (0x93, 0x201c), (0x94, 0x201d), (0x95, 0x2022),
   (0x96, 0x2013), (0x97, 0x2014), (0x98, 0x02dc), (0x99, 0x2122), (0x9a, 0x0161), (0x9b, 0x203a),
   (0x9c, 0x0153), (0x9e, 0x017e), (0x9f, 0x0178)]

/-- Codes that stand for no character: controls and noncharacters. -/
def isDroppedCode (code : Nat) : Bool :=
  (decide (1 ≤ code) && decide (code ≤ 8)) || code == 0xb ||
    (decide (0xe ≤ code) && decide (code ≤ 0x1f)) ||
    (decide (0x7f ≤ code) && decide (code ≤ 0x9f)) ||
    (decide (0xfdd0 ≤ code) && decide (code ≤ 0xfdef)) || decide (0xfffe ≤ code % 0x10000)

def characterOfCode (code : Nat) : List Char :=
  if code = 0 then ['\ufffd']
  else if code = 0x0d then ['\r']
  else
    match windowsCodes.lookup code with
    | some other => [Char.ofNat other]
    | none =>
      if code = 0x81 ∨ code = 0x8d ∨ code = 0x8f ∨ code = 0x90 ∨ code = 0x9d then [Char.ofNat code]
      else if (0xd800 ≤ code ∧ code ≤ 0xdfff) ∨ 0x10ffff < code then ['\ufffd']
      else if isDroppedCode code then []
      else [Char.ofNat code]

def isHexDigit (c : Char) : Bool :=
  c.isDigit || (decide ('a' ≤ c) && decide (c ≤ 'f')) || (decide ('A' ≤ c) && decide (c ≤ 'F'))

def hexDigitValue (c : Char) : Nat :=
  if c.isDigit then c.toNat - '0'.toNat
  else if decide ('a' ≤ c) then c.toNat - 'a'.toNat + 10
  else c.toNat - 'A'.toNat + 10

def numberInBase (base : Nat) (digits : List Char) : Nat :=
  digits.foldl (fun total c => total * base + hexDigitValue c) 0

/-- A name of characters, and whether its semicolon may be left out. -/
structure CharacterName where
  name : List Char
  isBare : Bool
  meaning : List Char

/-- The names of the characters of markup. -/
def markupNames : List CharacterName :=
  [⟨"amp".toList, true, ['&']⟩, ⟨"lt".toList, true, ['<']⟩, ⟨"gt".toList, true, ['>']⟩,
   ⟨"quot".toList, true, ['"']⟩, ⟨"apos".toList, false, ['\'']⟩, ⟨"nbsp".toList, true, ['\u00a0']⟩,
   ⟨"AMP".toList, true, ['&']⟩, ⟨"LT".toList, true, ['<']⟩, ⟨"GT".toList, true, ['>']⟩,
   ⟨"QUOT".toList, true, ['"']⟩]

/-- Splits a text at a mark. -/
def splitAt (mark : Char) (text : List Char) : List (List Char) :=
  let (first, rest) := text.foldr (fun c (state : List Char × List (List Char)) =>
    if c = mark then ([], state.1 :: state.2) else (c :: state.1, state.2)) ([], [])
  first :: rest

/-- An entry of the table of names. -/
def CharacterName.ofEntry (entry : List Char) : CharacterName :=
  let written := entry.takeWhile (· != '=')
  let codes := splitAt '+' (entry.drop (written.length + 1))
  { name := written.takeWhile (· != '*')
    isBare := written.contains '*'
    meaning := codes.map fun digits => Char.ofNat (numberInBase 16 digits) }

def characterNames : List CharacterName :=
  markupNames ++ characterNameLines.flatMap fun line =>
    (splitAt ' ' line.toList).map CharacterName.ofEntry

/-- A character that may stand in a name. -/
def isReferenceChar (c : Char) : Bool :=
  !(['\t', '\n', '\x0c', ' ', '<', '&', '#', ';'].contains c)

/-- The most characters of a text that are looked at for a name. -/
def maxNameLength : Nat := 32

/-- The longest name without a semicolon that a text starts with. -/
def longestBareName (text : List Char) : Option CharacterName :=
  (characterNames.filter fun entry => entry.isBare && entry.name.isPrefixOf text).foldl
    (fun longest entry =>
      match longest with
      | some other => if other.name.length < entry.name.length then some entry else some other
      | none => some entry) none

/-- A reference by name: the characters meant, and how many characters are used up. -/
def namedReference (text : List Char) : Option (List Char × Nat) :=
  let name := (text.takeWhile isReferenceChar).take maxNameLength
  let closed :=
    if text[name.length]? = some ';' then characterNames.find? fun entry => entry.name == name
    else none
  match closed with
  | some entry => some (entry.meaning, name.length + 1)
  | none => (longestBareName name).map fun entry => (entry.meaning, entry.name.length)

/-- A reference by number in a base, whose digits come after `skipped` characters. -/
def numberedReference (base skipped : Nat) (isDigit : Char → Bool) (text : List Char) :
    Option (List Char × Nat) :=
  let digits := text.takeWhile isDigit
  if digits.isEmpty then none
  else some (characterOfCode (numberInBase base digits),
    skipped + digits.length + (if text[digits.length]? = some ';' then 1 else 0))

/-- What follows an ampersand: the characters meant, and how many characters are used up. -/
def reference : List Char → Option (List Char × Nat)
  | '#' :: 'x' :: rest => numberedReference 16 2 isHexDigit rest
  | '#' :: 'X' :: rest => numberedReference 16 2 isHexDigit rest
  | '#' :: rest => numberedReference 10 1 Char.isDigit rest
  | text => namedReference text

/-- Replaces references in one pass; `skip` characters still belong to the last one. -/
def unescapeFrom (skip : Nat) : List Char → List Char
  | [] => []
  | c :: rest =>
    match skip with
    | skip + 1 => unescapeFrom skip rest
    | 0 =>
      if c = '&' then
        match reference rest with
        | some (meant, used) => meant ++ unescapeFrom used rest
        | none => c :: unescapeFrom 0 rest
      else c :: unescapeFrom 0 rest

def unescape (text : List Char) : List Char := unescapeFrom 0 text

end Artboard.Text
