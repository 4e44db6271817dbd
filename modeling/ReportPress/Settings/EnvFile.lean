import ReportPress.Text.Blank

/-!
Settings files. A line binds a name to a value, which may be quoted and then spans lines; comments
and lines that are no binding are passed over. A value may mention variables, which stand for values
bound before or, failing that, for those of the environment.
-/

namespace ReportPress.EnvFile

open Text

/-- The name and value of a binding; a name alone has no value. -/
structure Binding where
  name : String
  value : Option String

/-- The text inside quotes and what follows the closing one. A character behind a backslash does not
close the text. -/
def quotedText (quote : Char) : List Char → Option (List Char × List Char)
  | [] => none
  | '\\' :: c :: rest =>
    (quotedText quote rest).map fun (text, left) => ('\\' :: c :: text, left)
  | c :: rest =>
    if c = quote then some ([], rest)
    else (quotedText quote rest).map fun (text, left) => (c :: text, left)

/-- The escapes that double quotes allow, beside those of the quotes and the backslash. -/
def controlEscape? (c : Char) : Option Char :=
  if c = 'a' then some '\x07'
  else if c = 'b' then some '\x08'
  else if c = 'f' then some '\x0c'
  else if c = 'n' then some '\n'
  else if c = 'r' then some '\r'
  else if c = 't' then some '\t'
  else if c = 'v' then some '\x0b'
  else none

/-- The character that a letter after a backslash stands for between the quotes. -/
def escape? (quote c : Char) : Option Char :=
  if c = '\\' ∨ c = '\'' then some c
  else if quote = '"' then (if c = '"' then some c else controlEscape? c)
  else none

/-- The text with its escapes replaced; a backslash that starts none stays. -/
def unescape (quote : Char) : List Char → List Char
  | '\\' :: c :: rest =>
    match escape? quote c with
    | some escaped => escaped :: unescape quote rest
    | none => '\\' :: unescape quote (c :: rest)
  | c :: rest => c :: unescape quote rest
  | [] => []
termination_by cs => cs.length

/-- The text up to the first blanks in front of a comment mark. -/
def dropComment : List Char → List Char
  | [] => []
  | c :: rest =>
    if isBlank c && (rest.dropWhile isBlank).head? == some '#' then [] else c :: dropComment rest

/-- The rest of the line and what follows its end. -/
def restOfLine (cs : List Char) : List Char := (cs.dropWhile (· != '\n')).drop 1

/-- A value behind an equals sign and what follows it, or `none` for a quote that is not closed.
Blanks may stand in front of it. -/
def value? (cs : List Char) : Option (String × List Char) :=
  let line := cs.takeWhile (· != '\n')
  let unquoted := (String.ofList (trim isBlank (dropComment line)), cs.drop line.length)
  match cs.dropWhile isInlineBlank with
  | c :: rest =>
    if c = '\'' ∨ c = '"' then
      (quotedText c rest).map fun (text, left) => (String.ofList (unescape c text), left)
    else some unquoted
  | [] => some unquoted

/-- A name, which may stand in single quotes, and what follows it. -/
def name? (cs : List Char) : Option (List Char × List Char) :=
  match cs with
  | '\'' :: rest =>
    match rest.takeWhile (· != '\''), rest.dropWhile (· != '\'') with
    | [], _ => none
    | name, _ :: rest => some (name, rest)
    | _, [] => none
  | _ =>
    let isPart := fun c => c != '=' && c != '#' && !isBlank c
    match cs.takeWhile isPart with
    | [] => none
    | name => some (name, cs.dropWhile isPart)

/-- What follows a comment and the end of the line, or `none` where anything else does. -/
def lineEnd? (cs : List Char) : Option (List Char) :=
  let afterBlanks := cs.dropWhile isInlineBlank
  let afterComment :=
    if afterBlanks.head? == some '#' then afterBlanks.dropWhile (· != '\n') else afterBlanks
  match afterComment with
  | [] => some []
  | c :: rest => if c = '\n' then some rest else none

/-- The text without a word `export` in front of a name. -/
def dropExport (cs : List Char) : List Char :=
  if "export".toList.isPrefixOf cs && ((cs.drop 6).head?.any isInlineBlank) then
    (cs.drop 6).dropWhile isInlineBlank
  else cs

/-- The binding on a line that starts with neither a blank nor a comment mark, and what follows it.
A line that is no binding is passed over from where it went wrong. -/
def lineBinding (cs : List Char) : Option Binding × List Char :=
  match name? (dropExport cs) with
  | none => (none, restOfLine (dropExport cs))
  | some (name, rest) =>
    match rest.dropWhile isInlineBlank with
    | '=' :: rest =>
      match value? rest with
      | none => (none, restOfLine rest)
      | some (value, rest) =>
        match lineEnd? rest with
        | some rest => (some ⟨String.ofList name, some value⟩, rest)
        | none => (none, restOfLine rest)
    | rest =>
      match lineEnd? rest with
      | some rest => (some ⟨String.ofList name, none⟩, rest)
      | none => (none, restOfLine rest)

/-- The bindings of a text, in order. The fuel bounds the number of lines. -/
def bindingsOf : Nat → List Char → List Binding
  | 0, _ => []
  | fuel + 1, cs =>
    match cs.dropWhile isBlank with
    | [] => []
    | '#' :: rest => bindingsOf fuel (restOfLine rest)
    | start =>
      let (binding, rest) := lineBinding start
      binding.toList ++ bindingsOf fuel rest

/-- A variable in a value and what follows it: its name, and the text that stands for it where it
is not bound. -/
def mention? (cs : List Char) : Option (String × String × List Char) :=
  match cs with
  | '$' :: '{' :: rest =>
    let name := rest.takeWhile fun c => c != '}' && c != ':'
    match rest.dropWhile fun c => c != '}' && c != ':' with
    | '}' :: rest => some (String.ofList name, "", rest)
    | ':' :: '-' :: rest =>
      match rest.dropWhile (· != '}') with
      | '}' :: left => some (String.ofList name, String.ofList (rest.takeWhile (· != '}')), left)
      | _ => none
    | _ => none
  | _ => none

/-- The value with its variables replaced. The fuel bounds its length. -/
def expand (known : String → Option String) : Nat → List Char → List Char
  | 0, _ => []
  | _, [] => []
  | fuel + 1, c :: rest =>
    match mention? (c :: rest) with
    | some (name, fallback, rest) =>
      ((known name).getD fallback).toList ++ expand known fuel rest
    | none => c :: expand known fuel rest

/-- The names and values with one put under a name, in its place if it has one. -/
def bind (name : String) (value : Option String) :
    List (String × Option String) → List (String × Option String)
  | [] => [(name, value)]
  | (other, old) :: rest =>
    if other = name then (name, value) :: rest else (other, old) :: bind name value rest

/-- What a variable stands for: the empty text for a name bound without a value. -/
def knownIn (environment : List (String × String)) (bound : List (String × Option String))
    (name : String) : Option String :=
  match bound.lookup name with
  | some value => some (value.getD "")
  | none => environment.reverse.lookup name

/-- The text without a byte order mark at its start. -/
def dropByteOrderMark : List Char → List Char
  | '\uFEFF' :: rest => rest
  | cs => cs

/-- The names and values of a text, each name in its first place and with its last value. -/
def read (environment : List (String × String)) (text : List Char) :
    List (String × Option String) :=
  (bindingsOf (text.length + 1) (dropByteOrderMark text)).foldl
    (fun bound binding =>
      let value := binding.value.map fun value =>
        String.ofList (expand (knownIn environment bound) (value.length + 1) value.toList)
      bind binding.name value bound) []

end ReportPress.EnvFile
