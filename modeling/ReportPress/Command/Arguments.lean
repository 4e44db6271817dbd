import ReportPress.Text.Numeral
import ReportPress.Workspace.Path

/-!
Words of a command line. A command has options, which take a value or none, and words that belong to
no option; an option that is given twice counts as given last.
-/

namespace ReportPress.Command

/-- An option: its name, a letter if it has a short form, and whether it takes a value. -/
structure CommandOption where
  name : String
  letter : Option Char
  takesValue : Bool

/-- The options that were given, the last one first, and the other words in order. -/
structure Words where
  options : List (String × String)
  others : List String

namespace Words

/-- The value of an option. -/
def value? (words : Words) (name : String) : Option String := words.options.lookup name

/-- Whether an option was given. -/
def has (words : Words) (name : String) : Bool := (words.value? name).isSome

/-- The words after one more option. -/
def withOption (words : Words) (name value : String) : Words :=
  { words with options := (name, value) :: words.options }

/-- The words after one more word that belongs to no option. -/
def withOther (words : Words) (word : String) : Words :=
  { words with others := words.others ++ [word] }

end Words

/-- A word split at its first equals sign, if it has one. -/
def splitEquals (cs : List Char) : List Char × Option (List Char) :=
  match cs.dropWhile (· != '=') with
  | _ :: value => (cs.takeWhile (· != '='), some value)
  | [] => (cs, none)

/-- The words after the options in a word of letters, and the words that are left. -/
def readLetters (options : List CommandOption) (words : Words) :
    List Char → List String → Option (Words × List String)
  | [], rest => some (words, rest)
  | letter :: letters, rest =>
    match options.find? (·.letter == some letter) with
    | none => none
    | some option =>
      if option.takesValue then
        match letters, rest with
        | [], [] => none
        | [], value :: rest => some (words.withOption option.name value, rest)
        | letters, rest => some (words.withOption option.name (String.ofList letters), rest)
      else readLetters options (words.withOption option.name "") letters rest

/-- The words after the option in a word that starts with a dash, and the words that are left. -/
def readOption (options : List CommandOption) (words : Words) (cs : List Char)
    (rest : List String) : Option (Words × List String) :=
  match cs with
  | '-' :: '-' :: long =>
    let (name, value?) := splitEquals long
    match options.find? (·.name == String.ofList name), value?, rest with
    | none, _, _ => none
    | some option, some value, rest =>
      if option.takesValue then some (words.withOption option.name (String.ofList value), rest)
      else none
    | some option, none, [] =>
      if option.takesValue then none else some (words.withOption option.name "", [])
    | some option, none, next :: rest =>
      if option.takesValue then some (words.withOption option.name next, rest)
      else some (words.withOption option.name "", next :: rest)
  | _ :: letters => readLetters options words letters rest
  | [] => none

/-- The options and other words of a command line, or `none` if it has an option that is not known
or lacks its value. A double dash ends the options; where options are to come first, so does the
first other word. The fuel bounds the number of words. -/
def readWords (options : List CommandOption) (optionsFirst : Bool) :
    Nat → Words → List String → Option Words
  | 0, words, rest => some { words with others := words.others ++ rest }
  | _, words, [] => some words
  | fuel + 1, words, word :: rest =>
    if word == "--" then some { words with others := words.others ++ rest }
    else if "-".toList.isPrefixOf word.toList && 1 < word.length then
      match readOption options words word.toList rest with
      | some (words, rest) => readWords options optionsFirst fuel words rest
      | none => none
    else if optionsFirst then some { words with others := words.others ++ word :: rest }
    else readWords options optionsFirst fuel (words.withOther word) rest

/-- The options and other words of a command line. -/
def wordsOf (options : List CommandOption) (optionsFirst : Bool) (args : List String) :
    Option Words :=
  readWords options optionsFirst args.length ⟨[], []⟩ args

/-- The count that a word gives. The word is a numeral as in the text of a record: leading zeros,
underscores and a fraction of zeros may stand in it, digits of other scripts may not. -/
def count? (word : String) : Option Nat :=
  match Text.wholeNumeral word with
  | .value n => if n < 0 then none else some n.toNat
  | .tooLong | .unreadable => none

/-- The value of an option that counts tokens, zero where it is not given. -/
def tokenCount? (words : Words) (name : String) : Option Nat :=
  match words.value? name with
  | none => some 0
  | some value => count? value

/-- A word that names a path, which holds no null character. -/
def path? (word : String) : Option Path :=
  if word.toList.contains '\x00' then none else some (.ofString word)

/-- The value of an option that names a path, if it is given. -/
def pathOption? (words : Words) (name : String) : Option (Option Path) :=
  match words.value? name with
  | none => some none
  | some value => (path? value).map some

end ReportPress.Command
