import ReportPress.Text.CharacterName.Names
import ReportPress.Text.Hex
import ReportPress.Text.Runs

/-!
Names of characters: those of the Unicode standard and the other names that it knows them by.
Syllables, ideographs and some signs are named by a rule; all other names are in a list. Capital and
small letters are the same in them, save for syllables and the ideographs of the common set.
-/

namespace ReportPress.Text.CharacterName

/-! ### Listed names -/

/-- A search in the list: how many characters of the name agree with the start of the entry at hand,
how long the entry is so far, whether its count is being read, and whether an entry before is the
name. -/
structure Search where
  agreed : Nat
  length : Nat
  inCount : Bool
  isFound : Bool

namespace Search

/-- The search in front of the list. -/
def start : Search := ⟨0, 0, true, false⟩

/-- Whether the name is the entry at hand or one before. -/
def succeeds (search : Search) (name : Array Char) : Bool :=
  search.isFound || search.agreed == name.size && search.length == name.size

/-- The search behind one more character of the list. -/
def next (name : Array Char) (search : Search) (c : Char) : Search :=
  if c = '\n' then search
  else if c.isLower then
    let count := c.toNat - 'a'.toNat
    if search.inCount then { search with length := search.length + count }
    else { search with length := count, inCount := true, isFound := search.succeeds name }
  else
    let agreed := min search.agreed search.length
    let goesOn := agreed == search.length && name[agreed]? == some c
    { search with
      agreed := if goesOn then agreed + 1 else agreed
      length := search.length + 1
      inCount := false }

end Search

/-- Whether a name in capital letters is in the list. -/
def isListed (name : List Char) : Bool :=
  let name := name.toArray
  (listed.foldl (Search.next name) Search.start).succeeds name

/-! ### Names by rule -/

/-- The consonants that start a syllable, its vowels, and the consonants that end it. -/
def initials : List String :=
  ["", "G", "GG", "N", "D", "DD", "R", "M", "B", "BB", "S", "SS", "J", "JJ", "C", "K", "T", "P",
    "H"]

def vowels : List String :=
  ["A", "AE", "YA", "YAE", "EO", "E", "YEO", "YE", "O", "WA", "WAE", "OE", "YO", "U", "WEO", "WE",
    "WI", "YU", "EU", "YI", "I"]

def finals : List String :=
  ["", "G", "GG", "GS", "N", "NJ", "NH", "D", "L", "LG", "LM", "LB", "LS", "LT", "LP", "LH", "M",
    "B", "BS", "S", "SS", "NG", "J", "C", "K", "T", "P", "H"]

/-- What follows the longest of some words at the front. -/
def afterLongest? (words : List String) (cs : List Char) : Option (List Char) :=
  let fitting := words.filter fun word => word.toList.isPrefixOf cs
  (fitting.map String.length).max?.map cs.drop

/-- Whether a text is the name of a syllable. -/
def isSyllable (cs : List Char) : Bool :=
  (((afterLongest? initials cs).bind (afterLongest? vowels)).bind (afterLongest? finals)) == some []

/-- The codes of the ideographs of the common set. -/
def ideographRuns : List (Nat × Nat) := [
  (0x3400, 0x4DBF), (0x4E00, 0x9FFF), (0x20000, 0x2A6DF), (0x2A700, 0x2B738), (0x2B740, 0x2B81D),
  (0x2B820, 0x2CEA1), (0x2CEB0, 0x2EBE0), (0x30000, 0x3134A)]

/-- The starts of names that end in the code of the character, with the codes. -/
def codedRuns : List (String × List (Nat × Nat)) := [
  ("CJK COMPATIBILITY IDEOGRAPH-", [(0xF900, 0xFA6D), (0xFA70, 0xFAD9), (0x2F800, 0x2FA1D)]),
  ("KHITAN SMALL SCRIPT CHARACTER-", [(0x18B00, 0x18CD5)]),
  ("NUSHU CHARACTER-", [(0x1B170, 0x1B2FB)])]

/-- The starts of names that end in a number, with its least count of digits and the last one. -/
def numbered : List (String × Nat × Nat) := [
  ("TANGUT COMPONENT-", 3, 768), ("VARIATION SELECTOR-", 1, 256), ("VS", 1, 256)]

/-- Whether a text is a code with four or five digits, in capital letters, that lies in one of the
runs. -/
def isCode (runs : List (Nat × Nat)) (cs : List Char) : Bool :=
  (cs.length == 4 || cs.length == 5) && cs.all (fun c => isHexDigit c && !c.isLower) &&
    runs.any fun run => run.1 ≤ hexNumber cs && hexNumber cs ≤ run.2

/-- Whether a text is a number from one up to the last one, with zeros in front only up to a count
of digits. -/
def isNumber (width last : Nat) (cs : List Char) : Bool :=
  let number := cs.foldl (fun number c => 10 * number + (c.toNat - '0'.toNat)) 0
  cs.all Char.isDigit && width ≤ cs.length && (cs.length == width || cs.head? != some '0') &&
    1 ≤ number && number ≤ last

/-- Whether a text is made of raised dots, given by their places in order. -/
def areDots (cs : List Char) : Bool :=
  !cs.isEmpty && cs.all (fun c => '1' ≤ c && c ≤ '8') && cs.Pairwise (· < ·)

/-- What follows the start of a name. -/
def afterStart? (start : String) (name : List Char) : Option (List Char) :=
  if start.toList.isPrefixOf name then some (name.drop start.length) else none

/-- Whether a name in capital letters is made of words and a number. -/
def isMadeUp (name : List Char) : Bool :=
  (afterStart? "BRAILLE PATTERN DOTS-" name).any areDots ||
    (codedRuns.any fun (start, runs) =>
      (afterStart? start name).any fun code => isCode runs code && code.head? != some '0') ||
    numbered.any fun (start, width, last) => (afterStart? start name).any (isNumber width last)

/-- Whether a name is that of a character. -/
def isKnown (name : List Char) : Bool :=
  match afterStart? "HANGUL SYLLABLE " name, afterStart? "CJK UNIFIED IDEOGRAPH-" name with
  | some syllable, _ => isSyllable syllable
  | none, some code => isCode ideographRuns code
  | none, none =>
    let name := name.map Char.toUpper
    isMadeUp name || isListed name

end ReportPress.Text.CharacterName
