import ReportPress.Command.Markup.Expression.Tree

/-!
The grammar of expressions, as data. A rule is read by trying its options in order, the first that
fits winning, so the order of options is part of the grammar. Some options fit only what is wrong
and tell a fault instead of a tree; most of them are tried only when an expression is known to be
wrong.
-/

namespace ReportPress.Markup.Expression

/-- What is made of the trees of some parts: a tree, a fault, or nothing though the parts are there;
then no later option is tried either. -/
inductive Answer
  | tree (tree : Tree)
  | refused
  | fault (fault : Fault)

/-- The rules of the grammar. -/
inductive Rule
  | whole
  | expressions
  | expression
  | plainExpression
  | yield
  | starExpressions
  | starExpression
  | starNamedExpressions
  | starNamedExpression
  | assignment
  | namedExpression
  | disjunction
  | conjunction
  | inversion
  | comparison
  | comparedWith
  | bitOr
  | bitXor
  | bitAnd
  | shift
  | sum
  | term
  | factor
  | power
  | awaited
  | primary
  | atom
  | texts
  | group
  | tuple
  | set
  | dictionary
  | entries
  | entry
  | pair
  | generator
  | setComprehension
  | dictionaryComprehension
  | clauses
  | clause
  | arguments
  | values
  | keywords
  | starred
  | keywordOrStarred
  | keywordOrDoublyStarred
  | smallFunction
  | parameters
  | parametersWithSlash
  | parametersWithSlashAndDefault
  | parametersFromStar
  | parameterOfKeywords
  | parameter
  | parameterWithDefault
  | parameterEitherWay
  | defaultValue
  | targets
  | targetRow
  | target
  | plainTarget
  | targetAtom
  | targetPrimary
  | targetGoesOn
  | wrongExpression
  | callWithoutBrackets
  | wrongNamedExpression
  | wrongGroup
  | wrongTarget
  | wrongComprehension
  | wrongDictionaryComprehension
  | wrongEntries
  | wrongEntry
  | wrongArguments
  | wrongKeyword
  | wrongParameters
  | wrongStar
  | wrongKeywords
  deriving DecidableEq, Hashable

/-- What may stand at a place among tokens. -/
inductive Phrase
  | rule (rule : Rule)
  | sign (word : String)
  | name
  | number
  | text
  | joinedTexts
  | lineEnd
  | ending
  /-- All parts, one behind the other. -/
  | all (parts : List Phrase) (build : List Tree → Answer)
  /-- The first of the options that fits. -/
  | oneOf (options : List Phrase)
  | optional (part : Phrase)
  | many (part : Phrase)
  | several (part : Phrase)
  /-- A part and any number of further ones, each of which goes on from what stands before it. -/
  | chain (start next : Phrase) (join : Tree → Tree → Tree)
  /-- Something that fits here but is not passed. -/
  | ahead (part : Phrase)
  | notAhead (part : Phrase)
  /-- No other option is tried behind this place. -/
  | settled
  /-- A part that is tried only where faults are looked for. -/
  | told (part : Phrase)
  /-- A part in which no faults are looked for. -/
  | plainly (part : Phrase)
  /-- The token in front of this place. -/
  | passed

namespace Phrase

instance : Coe String Phrase := ⟨.sign⟩
instance : Coe Rule Phrase := ⟨.rule⟩

/-- The tree of the part at an index among those that have one. -/
def pick (index : Nat) (trees : List Tree) : Answer := .tree (trees.getD index (.row []))

/-- Always the same tree. -/
def as (tree : Tree) (_ : List Tree) : Answer := .tree tree

/-- Always a fault. -/
def wrong (fault : Fault) (_ : List Tree) : Answer := .fault fault

/-- A fault that names what the first part is. -/
def wrongKind (fault : String → Fault) (trees : List Tree) : Answer :=
  .fault (fault ((trees.headD (.row [])).kind))

/-- One or more of a part with commas between them. -/
def separated (part : Phrase) : Phrase :=
  .all [part, .many (.all [",", part] (pick 1))] fun trees =>
    match trees with
    | [first, rest] => .tree (.row (first :: rest.items))
    | _ => .refused

/-- Two expressions with a sign between them, read from the left. -/
def joined (operand : Rule) (signs : List String) : Phrase :=
  .chain operand (.oneOf (signs.map fun word => .all [.sign word, operand] (pick 1))) fun _ _ =>
    .operation

/-- An expression that is part of a list: a tuple if there is a comma. -/
def row (item : Rule) : Phrase :=
  .oneOf [
    .all [item, .several (.all [",", item] (pick 1)), .optional ","] fun trees =>
      match trees with
      | first :: rest :: _ => .tree (.tuple (first :: rest.items))
      | _ => .refused,
    .all [item, ","] fun trees => .tree (.tuple (trees.take 1)),
    item]

/-- What stands behind an expression that is called or has a member. -/
def called (function behind : Tree) : Tree :=
  match behind with
  | .attribute => .attribute
  | .row [] => .call function true
  | _ => .call function false

/-- The values of a call: those given by place, and those given by name. -/
def valuesOf (byPlace byName : List Tree) : Tree :=
  let isByPlace := fun tree : Tree => match tree with
    | .starred _ => true
    | _ => false
  .values (byPlace ++ byName.filter isByPlace)
    ((byName.filter fun tree => !isByPlace tree).map fun tree => match tree with
      | .named => false
      | _ => true)

/-- The fault of a call with more than one value by place in front of a generator. -/
def openGenerator (trees : List Tree) : Answer :=
  match trees with
  | .values (_ :: _ :: _) _ :: _ => .fault .openGenerator
  | _ => .refused

/-- The fault of a call with a value by place behind others by name. -/
def misplacedValue (trees : List Tree) : Answer :=
  match trees with
  | .values _ keywords :: _ =>
    .fault (if keywords.contains true then .valueBehindMapping else .valueBehindKeyword)
  | _ => .refused

/-- The words that once were called without brackets. -/
def oldWords : List String := ["print", "exec"]

/-- Whether an expression is a name that once was called without brackets. -/
def isOldWord : Tree → Bool
  | .name word => oldWords.contains word
  | _ => false

/-- The fault of two expressions side by side, the last token of which is given. It is told only
inside brackets. -/
def sideBySide (trees : List Tree) : Answer :=
  match trees with
  | [first, _, .token last] =>
    if isOldWord first || last.depth == 0 then .refused else .fault .missingComma
  | _ => .refused

/-- The fault of a name in front of values without brackets. -/
def withoutBrackets (trees : List Tree) : Answer :=
  match trees with
  | .name word :: _ => if isOldWord (.name word) then .fault (.missingBrackets word) else .refused
  | _ => .refused

/-- The fault of something to which nothing can be assigned. -/
def unassignable (trees : List Tree) : Answer :=
  match trees.getLast?.bind Tree.barrier? with
  | some tree => .fault (.assigned tree.kind)
  | none => .refused

/-- The fault of a constant to which something is assigned in a call. -/
def assignedConstant (trees : List Tree) : Answer :=
  match trees.head?.bind Tree.word? with
  | some word => .fault (.assigned word)
  | none => .refused

/-- A name with a text behind it, or a word that starts like one with a meaning in some places
only. -/
def noStart : Phrase :=
  .oneOf (.all [.name, .text] (pick 0) ::
    ["_", "c", "ca", "cas", "case", "m", "ma", "mat", "matc", "match"].map .sign)

/-- What may not follow a value that seems to be assigned. -/
def goesOn : Phrase := .oneOf ["=", ":="]

/-- An argument of a call, or what a generator gives. -/
def element : Phrase := .oneOf [
  .rule .assignment,
  .all [.rule .expression, .notAhead ":="] (pick 0)]

/-- A parameter ends at a comma or in front of the colon. -/
def parameterWith (parts : List Phrase) : Phrase :=
  .oneOf [.all (parts ++ [.sign ","]) (pick 0), .all (parts ++ [.ahead (.sign ":")]) (pick 0)]

end Phrase

open Phrase

namespace Rule

/-- Whether what a rule comes to at a place is kept, so that it is not read again there. -/
def isKept : Rule → Bool
  | expression | starExpression | disjunction | conjunction | inversion | bitOr | bitXor | bitAnd
  | shift | sum | term | factor | awaited | primary | texts | arguments | target | plainTarget
  | targetPrimary | wrongNamedExpression => true
  | _ => false

/-- What a rule stands for. -/
def body : Rule → Phrase
  | whole => .all [expressions, .many .lineEnd, .ending] (pick 0)
  | expressions => row expression
  | expression => .oneOf [
      .told wrongExpression,
      .told callWithoutBrackets,
      .rule plainExpression]
  | plainExpression => .oneOf [
      .all [disjunction, "if", disjunction, "else", expression] (as .conditional),
      disjunction,
      smallFunction]
  | yield => .oneOf [
      .all ["yield", "from", expression] (as .yielded),
      .all ["yield", .optional starExpressions] (as .yielded)]
  | starExpressions => row starExpression
  | starExpression => .oneOf [
      .all ["*", bitOr] fun trees => .tree (.starred (trees.getD 1 (.row []))),
      expression]
  | starNamedExpressions => .all [separated starNamedExpression, .optional ","] (pick 0)
  | starNamedExpression => .oneOf [
      .all ["*", bitOr] fun trees => .tree (.starred (trees.getD 1 (.row []))),
      namedExpression]
  | assignment => .all [.name, ":=", .settled, expression] (as .named)
  | namedExpression => .oneOf [
      assignment,
      .told wrongNamedExpression,
      .all [expression, .notAhead ":="] (pick 0)]
  | disjunction => .oneOf [
      .all [conjunction, .several (.all ["or", conjunction] (pick 1))] (as .operation),
      conjunction]
  | conjunction => .oneOf [
      .all [inversion, .several (.all ["and", inversion] (pick 1))] (as .operation),
      inversion]
  | inversion => .oneOf [
      .all ["not", inversion] (as .operation),
      comparison]
  | comparison => .oneOf [
      .all [bitOr, .several comparedWith] fun trees =>
        match trees with
        | [left, rest] => .tree (.comparison (rest.items.headD (.row [])) left)
        | _ => .refused,
      bitOr]
  | comparedWith => .oneOf [
      .all ["==", bitOr] (pick 0),
      .all ["!=", bitOr] (pick 0),
      .all ["<=", bitOr] (pick 0),
      .all ["<", bitOr] (pick 0),
      .all [">=", bitOr] (pick 0),
      .all [">", bitOr] (pick 0),
      .all ["not", "in", bitOr] (pick 0),
      .all ["in", bitOr] (pick 0),
      .all ["is", "not", bitOr] (pick 0),
      .all ["is", bitOr] (pick 0)]
  | bitOr => joined bitXor ["|"]
  | bitXor => joined bitAnd ["^"]
  | bitAnd => joined shift ["&"]
  | shift => joined sum ["<<", ">>"]
  | sum => .chain term (.oneOf [.all ["+", term] (pick 1), .all ["-", term] (pick 1)]) .sum
  | term => joined factor ["*", "/", "//", "%", "@"]
  | factor => .oneOf [
      .all ["+", factor] fun trees => .tree (.signed (trees.getD 1 (.row []))),
      .all ["-", factor] fun trees => .tree (.signed (trees.getD 1 (.row []))),
      .all ["~", factor] (as .operation),
      power]
  | power => .oneOf [
      .all [awaited, "**", factor] (as .operation),
      awaited]
  | awaited => .oneOf [
      .all ["await", primary] (as .awaited),
      primary]
  | primary => .chain atom (.oneOf [
      .all [".", .name] (as .attribute),
      generator,
      .all ["(", .optional arguments, ")"] (pick 1)]) called
  | atom => .oneOf [
      .name,
      .all ["True"] (as (.constant .yes)),
      .all ["False"] (as (.constant .no)),
      .all ["None"] (as (.constant .none)),
      texts,
      .number,
      .all [.ahead "(", .oneOf [tuple, group, generator]] (pick 0),
      .all [.ahead "\x7b", .oneOf [dictionary, set, dictionaryComprehension, setComprehension]]
        (pick 0),
      .all ["..."] (as (.constant .ellipsis))]
  | texts => .joinedTexts
  | group => .oneOf [
      .all ["(", .oneOf [yield, namedExpression], ")"] (pick 1),
      .told wrongGroup]
  | tuple =>
    .all ["(", .optional (.all [starNamedExpression, ",", .optional starNamedExpressions]
        fun trees => match trees with
          | [first, _, rest] => .tree (.row (first :: rest.items.flatMap Tree.items))
          | _ => .refused), ")"] fun trees =>
      .tree (.tuple ((trees.getD 1 (.row [])).items.flatMap Tree.items))
  | set => .all ["\x7b", starNamedExpressions, "\x7d"] fun trees =>
      .tree (.set (trees.getD 1 (.row [])).items)
  | dictionary => .oneOf [
      .all ["\x7b", .optional entries, "\x7d"] fun trees =>
        .tree (.dictionary ((trees.getD 1 (.row [])).items.flatMap Tree.items)),
      .all ["\x7b", wrongEntries, "\x7d"] (pick 1)]
  | entries => .all [separated entry, .optional ","] (pick 0)
  | entry => .oneOf [
      .all ["**", bitOr] fun trees => .tree (.row (trees.drop 1)),
      pair]
  | pair => .all [expression, ":", expression] fun trees =>
      .tree (.row (trees.take 1 ++ trees.drop 2))
  | generator => .oneOf [
      .all ["(", element, clauses, ")"] (as .generator),
      .told wrongComprehension]
  | setComprehension => .oneOf [
      .all ["\x7b", namedExpression, clauses, "\x7d"] (as .setComprehension),
      .told wrongComprehension]
  | dictionaryComprehension => .oneOf [
      .all ["\x7b", pair, clauses, "\x7d"] (as .dictionaryComprehension),
      .told wrongDictionaryComprehension]
  | clauses => .several clause
  | clause => .oneOf [
      .all ["async", "for", targets, "in", .settled, disjunction,
        .many (.all ["if", disjunction] (pick 1))] (as (.row [])),
      .all ["for", targets, "in", .settled, disjunction,
        .many (.all ["if", disjunction] (pick 1))] (as (.row [])),
      .told wrongTarget]
  | arguments => .oneOf [
      .all [values, .optional ",", .ahead ")"] (pick 0),
      .told wrongArguments]
  | values => .oneOf [
      .all [separated (.oneOf [starred, .all [element, .notAhead "="] (pick 0)]),
        .optional (.all [",", keywords] (pick 1))] fun trees =>
          match trees with
          | [byPlace, byName] =>
            .tree (valuesOf byPlace.items (byName.items.flatMap Tree.items))
          | _ => .refused,
      .all [keywords] fun trees => .tree (valuesOf [] (trees.flatMap Tree.items))]
  | keywords => .oneOf [
      .all [separated keywordOrStarred, ",", separated keywordOrDoublyStarred] fun trees =>
        .tree (.row (trees.flatMap Tree.items)),
      separated keywordOrStarred,
      separated keywordOrDoublyStarred]
  | starred => .all ["*", expression] fun trees => .tree (.starred (trees.getD 1 (.row [])))
  | keywordOrStarred => .oneOf [
      .told wrongKeyword,
      .all [.name, "=", expression] (as .named),
      starred]
  | keywordOrDoublyStarred => .oneOf [
      .told wrongKeyword,
      .all [.name, "=", expression] (as .named),
      .all ["**", expression] (as (.row []))]
  | smallFunction => .all ["lambda", .optional (.oneOf [.told wrongParameters, parameters]), ":",
      expression] (as .smallFunction)
  | parameters => .oneOf [
      .all [parametersWithSlash, .many parameter, .many parameterWithDefault,
        .optional parametersFromStar] (as (.row [])),
      .all [parametersWithSlashAndDefault, .many parameterWithDefault,
        .optional parametersFromStar] (as (.row [])),
      .all [.several parameter, .many parameterWithDefault, .optional parametersFromStar]
        (as (.row [])),
      .all [.several parameterWithDefault, .optional parametersFromStar] (as (.row [])),
      parametersFromStar]
  | parametersWithSlash => parameterWith [.several parameter, "/"]
  | parametersWithSlashAndDefault =>
    parameterWith [.many parameter, .several parameterWithDefault, "/"]
  | parametersFromStar => .oneOf [
      .told wrongStar,
      .all ["*", parameter, .many parameterEitherWay, .optional parameterOfKeywords]
        (as (.row [])),
      .all ["*", ",", .several parameterEitherWay, .optional parameterOfKeywords] (as (.row [])),
      parameterOfKeywords]
  | parameterOfKeywords => .oneOf [
      .told wrongKeywords,
      .all ["**", parameter] (pick 1)]
  | parameter => parameterWith [.name]
  | parameterWithDefault => parameterWith [.name, defaultValue]
  | parameterEitherWay => parameterWith [.name, .optional defaultValue]
  | defaultValue => .oneOf [
      .all ["=", expression] (pick 1),
      .told (.all ["=", .ahead (.oneOf [")", ","])] (wrong (.parameter .emptyDefault)))]
  | targets => .oneOf [
      .all [target, .notAhead ","] (pick 0),
      .all [target, .many (.all [",", target] (pick 1)), .optional ","] (as (.row []))]
  | targetRow => .oneOf [
      .all [target, .several (.all [",", target] (pick 1)), .optional ","] (as (.row [])),
      .all [target, ","] (pick 0)]
  | target => .oneOf [
      .all ["*", .notAhead "*", target] (pick 1),
      plainTarget]
  | plainTarget => .oneOf [
      .all [targetPrimary, ".", .name, .notAhead targetGoesOn] (pick 0),
      targetAtom]
  | targetAtom => .oneOf [
      .name,
      .all ["(", plainTarget, ")"] (pick 1),
      .all ["(", .optional targetRow, ")"] (pick 1)]
  | targetPrimary => .chain (.all [atom, .ahead targetGoesOn] (pick 0)) (.oneOf [
      .all [".", .name, .ahead targetGoesOn] (as .attribute),
      .all [generator, .ahead targetGoesOn] (pick 0),
      .all ["(", .optional arguments, ")", .ahead targetGoesOn] (pick 1)]) called
  | targetGoesOn => .oneOf ["(", "."]
  | wrongExpression => .oneOf [
      .all [.notAhead noStart, disjunction, .plainly plainExpression, .passed] sideBySide,
      .all [disjunction, "if", disjunction, .notAhead (.oneOf ["else", ":"])]
        (wrong .missingElse)]
  | callWithoutBrackets => .all [.name, .notAhead "(", starExpressions] withoutBrackets
  | wrongNamedExpression => .oneOf [
      .all [expression, ":=", expression] (wrongKind .namedExpression),
      .all [.name, "=", bitOr, .notAhead goesOn] (wrong .missingEquality),
      .all [.notAhead (.oneOf [tuple, generator, "True", "None", "False"]), bitOr, "=", bitOr,
        .notAhead goesOn] (wrongKind .assignedHere)]
  | wrongGroup => .oneOf [
      .all ["(", starred, ")"] (wrong .starredGroup),
      .all ["(", "**", expression, ")"] (wrong .doublyStarredGroup)]
  | wrongTarget => .all [.optional "async", "for", starExpressions] unassignable
  | wrongComprehension => .oneOf [
      .all [.oneOf ["(", "\x7b"], starred, clauses] (wrong .starredElement),
      .all ["\x7b", starNamedExpression, ",", starNamedExpressions, clauses]
        (wrong .elementWithoutBrackets),
      .all ["\x7b", starNamedExpression, ",", clauses] (wrong .elementWithoutBrackets)]
  | wrongDictionaryComprehension =>
    .all ["\x7b", "**", bitOr, clauses, "\x7d"] (wrong .starredEntries)
  | wrongEntries => .oneOf [
      .all [separated entry, ",", wrongEntry] (pick 2),
      .all [expression, ":", "*", bitOr] (wrong .starredValue),
      .all [expression, ":", .ahead (.oneOf ["\x7d", ","])] (wrong .missingValue)]
  | wrongEntry => .oneOf [
      .all [expression, .notAhead ":"] (wrong .missingColon),
      .all [expression, ":", "*", bitOr] (wrong .starredValue),
      .all [expression, ":", .ahead (.oneOf ["\x7d", ","])] (wrong .missingValue)]
  | wrongArguments => .oneOf [
      .all [values, ",", "*"] (wrong .iterableBehindMapping),
      .all [expression, clauses, ",",
        .optional (.oneOf [values, .all [expression, clauses] (pick 0)])] (wrong .openGenerator),
      .all [.name, "=", expression, clauses] (wrong .missingEquality),
      .all [values, clauses] openGenerator,
      .all [values, ",", expression, clauses] (wrong .openGenerator),
      .all [values, ",", values] misplacedValue]
  | wrongKeyword => .oneOf [
      .all [.oneOf ["True", "False", "None"], "="] assignedConstant,
      .all [.name, "=", expression, clauses] (wrong .missingEquality),
      .all [.notAhead (.all [.name, "="] (pick 0)), expression, "="] (wrong .keywordExpression)]
  | wrongParameters => .oneOf [
      .all [.many parameter, .oneOf [parametersWithSlashAndDefault, .several parameterWithDefault],
        parameter] (wrong (.parameter .missingDefault)),
      .all [.many parameter, "(", separated .name, .optional ",", ")"]
        (wrong (.parameter .inBrackets)),
      .all ["/", ","] (wrong (.parameter .slashFirst)),
      .all [.oneOf [parametersWithSlash, parametersWithSlashAndDefault], .many parameterEitherWay,
        "/"] (wrong (.parameter .secondSlash)),
      .all [.optional (.oneOf [parametersWithSlash, parametersWithSlashAndDefault]),
        .many parameterEitherWay, "*", .oneOf [",", parameter], .many parameterEitherWay, "/"]
        (wrong (.parameter .slashBehindStar)),
      .all [.several parameterEitherWay, "/", "*"] (wrong (.parameter .noCommaBeforeStar))]
  | wrongStar => .oneOf [
      .all ["*", .oneOf [":", .all [",", .oneOf [":", "**"]] (pick 0)]]
        (wrong (.parameter .bareStar)),
      .all ["*", .name, "="] (wrong (.parameter .defaultOfRest)),
      .all ["*", .oneOf [parameter, ","], .many parameterEitherWay, "*",
        .oneOf [parameter, ","]] (wrong (.parameter .secondStar))]
  | wrongKeywords => .oneOf [
      .all ["**", .name, "="] (wrong (.parameter .defaultOfKeywords)),
      .all ["**", .name, ",", .name] (wrong (.parameter .behindKeywords)),
      .all ["**", .name, ",", .oneOf ["*", "**", "/"]] (wrong (.parameter .behindKeywords))]

end Rule

end ReportPress.Markup.Expression
