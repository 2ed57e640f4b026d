import ResourceQuery.Number.Decimal
import ResourceQuery.Text.Names.Aliases
import ResourceQuery.Text.Names.Ancient
import ResourceQuery.Text.Names.EastAsian
import ResourceQuery.Text.Names.European
import ResourceQuery.Text.Names.Musical
import ResourceQuery.Text.Names.Pictographs
import ResourceQuery.Text.Names.Signs
import ResourceQuery.Text.Names.SouthAsian
import ResourceQuery.Text.Names.SoutheastAsian
import ResourceQuery.Text.Names.Syllabic
import ResourceQuery.Text.Names.Symbols

/-!
Characters by their Unicode names. Most names are listed, with aliases, and may be written in any
case. Those of ideographs hold the character's own code point, and those of Hangul syllables are
put together from the sounds of the syllable; ideographs and syllables are named in upper case
only. `characterNamed?` finds the character of a name.
-/
namespace ResourceQuery.Text

/-- What follows a beginning, if a text has it. -/
def afterLead? (lead : String) (name : List Char) : Option (List Char) :=
  if lead.toList.isPrefixOf name then some (name.drop lead.length) else none

/-- The number of hexadecimal digits in upper case. -/
def upperHex? (digits : List Char) : Option Nat :=
  if digits.all fun c => (hexValue? c).isSome && !c.isLower then
    some (digits.foldl (fun value c => 16 * value + (hexValue? c).getD 0) 0)
  else none

/-- The unified ideographs. -/
def ideographs : List (Nat × Nat) :=
  [(0x3400, 0x4DBF), (0x4E00, 0x9FFF), (0x20000, 0x2A6DF), (0x2A700, 0x2B738),
   (0x2B740, 0x2B81D), (0x2B820, 0x2CEA1), (0x2CEB0, 0x2EBE0), (0x30000, 0x3134A)]

/-- Whether a code point is in one of the ranges. -/
def inRanges (ranges : List (Nat × Nat)) (code : Nat) : Bool :=
  ranges.any fun (first, last) => first ≤ code && code ≤ last

/-- The unified ideograph of four or five digits. -/
def ideograph? (digits : List Char) : Option Nat :=
  if digits.length = 4 ∨ digits.length = 5 then (upperHex? digits).filter (inRanges ideographs)
  else none

/-- Other characters whose names end in their code points, by the beginning of the name. -/
def codedNames : List (String × List (Nat × Nat)) :=
  [("CJK COMPATIBILITY IDEOGRAPH-", [(0xF900, 0xFA6D), (0xFA70, 0xFAD9), (0x2F800, 0x2FA1D)]),
   ("KHITAN SMALL SCRIPT CHARACTER-", [(0x18B00, 0x18CD5)]),
   ("NUSHU CHARACTER-", [(0x1B170, 0x1B2FB)])]

/-- The character of a name that ends in its code point, written in the fewest digits from four
on. -/
def coded? (name : List Char) : Option Nat :=
  codedNames.findSome? fun (lead, ranges) => do
    let digits ← afterLead? lead name
    let code ← upperHex? digits
    if digits.length = (if code < 0x10000 then 4 else 5) && inRanges ranges code then some code
    else none

/-- The sounds with which a syllable starts. -/
def initialSounds : List String :=
  ["G", "GG", "N", "D", "DD", "R", "M", "B", "BB", "S", "SS", "", "J", "JJ", "C", "K", "T", "P",
   "H"]

/-- The vowels of a syllable. -/
def vowels : List String :=
  ["A", "AE", "YA", "YAE", "EO", "E", "YEO", "YE", "O", "WA", "WAE", "OE", "YO", "U", "WEO", "WE",
   "WI", "YU", "EU", "YI", "I"]

/-- The sounds with which a syllable ends. -/
def finalSounds : List String :=
  ["", "G", "GG", "GS", "N", "NJ", "NH", "D", "L", "LG", "LM", "LB", "LS", "LT", "LP", "LH", "M",
   "B", "BS", "S", "SS", "NG", "J", "C", "K", "T", "P", "H"]

/-- The place of the longest sound with which a text starts, and the text after it. -/
def takeSound? (sounds : List String) (text : List Char) : Option (Nat × List Char) :=
  let found := sounds.zipIdx.filterMap fun (sound, place) =>
    (afterLead? sound text).map fun rest => (place, rest)
  found.foldl (fun best next =>
    match best with
    | none => some next
    | some old => if next.2.length < old.2.length then some next else some old) none

/-- The syllable of its sounds. -/
def syllable? (sounds : List Char) : Option Nat := do
  let (initial, rest) ← takeSound? initialSounds sounds
  let (vowel, rest) ← takeSound? vowels rest
  let (final, rest) ← takeSound? finalSounds rest
  if rest.isEmpty then some (0xAC00 + (initial * 21 + vowel) * 28 + final) else none

/-- The variation selector of an abbreviation `VS1` to `VS256`. -/
def variationSelector? (name : List Char) : Option Nat := do
  let digits ← afterLead? "VS" name
  let number := Number.ofDigits digits
  if digits = Number.digits number ∧ 1 ≤ number ∧ number ≤ 256 then
    some (if number ≤ 16 then 0xFDFF + number else 0xE00EF + number)
  else none

/-- The listed names by the parts of the code space. -/
def nameRuns : List (List NameRun) :=
  [europeanNames, southAsianNames, southeastAsianNames, syllabicNames, symbolNames,
   eastAsianNames, ancientNames, signNames, musicalNames, pictographNames]

/-- All listed names with their code points, written out when a name is first looked up. -/
def nameTable : Thunk (List (String × Nat)) :=
  Thunk.mk fun _ => nameRuns.flatMap fun runs => runs.flatMap NameRun.names

/-- The code point of a name in upper case that is listed or is an alias. -/
def listed? (name : List Char) : Option Nat :=
  coded? name <|> variationSelector? name <|> nameAliases.lookup (String.ofList name) <|>
    nameTable.get.lookup (String.ofList name)

/-- The code point of the character that a name belongs to. -/
def characterNamed? (name : List Char) : Option Nat :=
  match afterLead? "HANGUL SYLLABLE " name, afterLead? "CJK UNIFIED IDEOGRAPH-" name with
  | some sounds, _ => syllable? sounds
  | none, some digits => ideograph? digits
  | none, none => listed? (name.map Char.toUpper)

end ResourceQuery.Text
