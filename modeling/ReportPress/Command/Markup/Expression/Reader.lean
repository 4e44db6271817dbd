import ReportPress.Command.Markup.Expression.Grammar
import Std.Data.HashMap

/-!
Reading tokens by the grammar. The tokens are read at most twice: a second time to find out what is
wrong, if the first reading finds no expression. A fault that stops the tokens behind the place
where reading ends is told instead, if it is a clear one.
-/

namespace ReportPress.Markup.Expression

/-- Why reading stops: the tokens end in a fault here, the grammar or a text tells one, or an
expression inside a text is to blame. -/
inductive Stop
  | broken (place : Break)
  | wrong (fault : Fault)
  | inside (fault : Fault)

/-- What reading a part comes to: its trees and the place behind it, or that it does not fit. If it
is refused, no later option is tried. -/
inductive Reply
  | found (trees : List Tree) (place : Nat)
  | absent
  | refused

/-- The count of tokens looked at, and what rules came to at places. -/
structure Progress where
  seen : Nat
  kept : Std.HashMap (Rule × Nat) Reply

/-- A reading, which goes on from the tokens seen so far. -/
abbrev Reading (α : Type) : Type := EStateM Stop Progress α

/-- Words that are no names. -/
def reservedWords : List String :=
  ["False", "None", "True", "and", "as", "assert", "async", "await", "break", "class", "continue",
    "def", "del", "elif", "else", "except", "finally", "for", "from", "global", "if", "import",
    "in", "is", "lambda", "nonlocal", "not", "or", "pass", "raise", "return", "try", "while",
    "with", "yield"]

/-- The name that a word is: letters of other shapes are ordinary ones. -/
def plainName (word : String) : String := word.map Text.plainForm

/-- What reading some parts comes to, by what is made of them. -/
def Answer.reply (answer : Answer) (place : Nat) : Reading Reply :=
  match answer with
  | .tree value => return .found [value] place
  | .refused => return .refused
  | .fault told => throw (.wrong told)

/-- A reply outside the options among which it was given. -/
def Reply.settled : Reply → Reply
  | .refused => .absent
  | reply => reply

namespace Reader

variable (tokens : Tokens) (join : List Token → Except Stop Tree)

/-- The token at a place, if there is one. -/
def tokenAt (place : Nat) : Reading (Option Token) := do
  match tokens.list[place]?, tokens.broken with
  | some token, _ =>
    modify fun progress => { progress with seen := max progress.seen (place + 1) }
    return some token
  | none, some broken => throw (.broken broken)
  | none, none => return none

/-- A part that is one token, with its tree. -/
def one (tree? : Lexeme → Option Tree) (place : Nat) : Reading Reply := do
  match (← tokenAt tokens place).bind fun token => tree? token.lexeme with
  | some tree => return .found [tree] (place + 1)
  | none => return .absent

/-- A word or a sign. -/
def word (word : String) (place : Nat) : Reading Reply := do
  match ← tokenAt tokens place with
  | some token =>
    if token.lexeme = .name word ∨ token.lexeme = .sign word then
      return .found [.token token] (place + 1)
    else return .absent
  | none => return .absent

/-- The texts from a place on. The fuel bounds their number. -/
def textsFrom : Nat → Nat → Reading (List Token)
  | 0, _ => return []
  | fuel + 1, place => do
    match ← tokenAt tokens place with
    | some token =>
      if token.lexeme.isText then return token :: (← textsFrom fuel (place + 1)) else return []
    | none => return []

/-- Texts side by side, which are one. -/
def joinedTexts (place : Nat) : Reading Reply := do
  match ← textsFrom tokens (tokens.list.size + 1) place with
  | [] => return .absent
  | texts =>
    match join texts with
    | .ok tree => return .found [tree] (place + texts.length)
    | .error stop => throw stop

mutual

/-- Reads a part at a place; `told` says whether faults are looked for. The fuel bounds the depth of
the parts inside one another. -/
def read : Nat → Bool → Phrase → Nat → Reading Reply
  | 0, _, _, _ => return .absent
  | fuel + 1, told, part, place =>
    match part with
    | .rule rule => do
      match (← get).kept.get? (rule, place) with
      | some reply => return reply
      | none =>
        let reply := (← read fuel told rule.body place).settled
        if rule.isKept then
          modify fun progress =>
            { progress with kept := progress.kept.insert (rule, place) reply }
        return reply
    | .sign text => word tokens text place
    | .name => one tokens (fun lexeme => match lexeme with
        | .name word =>
          if reservedWords.contains word then none else some (.name (plainName word))
        | _ => none) place
    | .number => one tokens (fun lexeme => match lexeme with
        | .number isImaginary => some (.constant (.number isImaginary))
        | _ => none) place
    | .text => one tokens (fun lexeme => match lexeme with
        | .text _ _ => some (.constant .text)
        | _ => none) place
    | .lineEnd => one tokens (fun lexeme =>
        if lexeme = .lineEnd then some (.row []) else none) place
    | .ending => one tokens (fun lexeme =>
        if lexeme = .ending then some (.row []) else none) place
    | .joinedTexts => joinedTexts tokens join place
    | .all parts build => readAll fuel told parts build [] false place
    | .oneOf options => readOneOf fuel told options place
    | .optional part => do
      match ← read fuel told part place with
      | .found trees next => return .found [.row trees] next
      | _ => return .found [.row []] place
    | .many part => do
      let (trees, next) ← readMany fuel told part place
      return .found [.row trees] next
    | .several part => do
      let (trees, next) ← readMany fuel told part place
      return if trees.isEmpty then .absent else .found [.row trees] next
    | .chain start next join => do
      match ← read fuel told start place with
      | .found [tree] behind => readChain fuel told next join tree behind
      | _ => return .absent
    | .ahead part => do
      match ← read fuel told part place with
      | .found _ _ => return .found [] place
      | _ => return .absent
    | .notAhead part => do
      match ← read fuel told part place with
      | .found _ _ => return .absent
      | _ => return .found [] place
    | .settled => return .found [] place
    | .told part => if told then read fuel told part place else return .absent
    | .plainly part => read fuel false part place
    | .passed => return .found ((tokens.list[place - 1]?.map Tree.token).toList) place

/-- Reads parts one behind the other; `found` are the trees so far, the last one first. -/
def readAll : Nat → Bool → List Phrase → (List Tree → Answer) → List Tree → Bool → Nat →
    Reading Reply
  | 0, _, _, _, _, _, _ => return .absent
  | fuel + 1, told, parts, build, found, isSettled, place =>
    match parts with
    | [] => (build found.reverse).reply place
    | .settled :: rest => readAll fuel told rest build found true place
    | part :: rest => do
      match ← read fuel told part place with
      | .found trees next => readAll fuel told rest build (trees.reverse ++ found) isSettled next
      | _ => return if isSettled then .refused else .absent

/-- Reads the first of the options that fits. -/
def readOneOf : Nat → Bool → List Phrase → Nat → Reading Reply
  | 0, _, _, _ => return .absent
  | fuel + 1, told, options, place =>
    match options with
    | [] => return .absent
    | option :: rest => do
      match ← read fuel told option place with
      | .absent => readOneOf fuel told rest place
      | reply => return reply.settled

/-- Reads a part as often as it fits. -/
def readMany : Nat → Bool → Phrase → Nat → Reading (List Tree × Nat)
  | 0, _, _, place => return ([], place)
  | fuel + 1, told, part, place => do
    match ← read fuel told part place with
    | .found trees next =>
      let (more, behind) ← readMany fuel told part next
      return (trees ++ more, behind)
    | _ => return ([], place)

/-- Reads what goes on from a tree. -/
def readChain : Nat → Bool → Phrase → (Tree → Tree → Tree) → Tree → Nat → Reading Reply
  | 0, _, _, _, _, _ => return .absent
  | fuel + 1, told, next, join, tree, place => do
    match ← read fuel told next place with
    | .found [more] behind => readChain fuel told next join (join tree more) behind
    | _ => return .found [tree] place

end

/-- The depth of parts inside one another for each token. -/
def depthOfToken : Nat := 200

/-- Reads a rule at the start of the tokens. -/
def start (rule : Rule) (told : Bool) : Reading Reply :=
  read tokens join (depthOfToken * (tokens.list.size + 2)) told (.rule rule) 0

/-- The fault that is told where reading ends with another one: that of the tokens behind, if it is
clear or if a bracket was left open in a line before. -/
def verdict (progress : Progress) (fault : Fault) (outer : Fault → Fault) : Fault :=
  match tokens.broken with
  | none => fault
  | some broken =>
    if broken.isClear then broken.fault
    else
      match broken.opened, tokens.list[progress.seen - 1]? with
      | (bracket, line) :: _, some token =>
        if line < token.line then outer (.unclosed bracket) else fault
      | _, _ => fault

/-- The fault for which reading stopped. Where the end of the text was met, that is the verdict. -/
def stopped (progress : Progress) (outer : Fault → Fault) (stop : Stop) : Fault :=
  let told := fun fault =>
    if tokens.list[progress.seen - 1]?.any Token.meetsEnd then fault
    else verdict tokens progress fault outer
  match stop with
  | .broken broken => if broken.isClear then broken.fault else outer broken.fault
  | .wrong fault => told (outer fault)
  | .inside fault => told fault

/-- The expression of the tokens. `outer` says how a fault is told. -/
def tree (rule : Rule) (outer : Fault → Fault) : Except Fault Tree :=
  match (start tokens join rule false).run ⟨0, ∅⟩ with
  | .ok (.found (tree :: _) _) _ => .ok tree
  | .error stop progress => .error (stopped tokens progress outer stop)
  | .ok _ progress =>
    match (start tokens join rule true).run ⟨progress.seen, ∅⟩ with
    | .error stop progress => .error (stopped tokens progress outer stop)
    | .ok _ later =>
      match tokens.list[progress.seen - 1]?.map Token.lexeme with
      | some .indent => .error (outer .indented)
      | some .dedent => .error (outer .dedented)
      | _ => .error (verdict tokens later (outer .unexpected) outer)

end Reader

end ReportPress.Markup.Expression
