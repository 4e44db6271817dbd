import ReportPress.Command.Markup.Expression.Token

/-!
Syntax trees of expressions. They tell what an expression is as far as its value as a literal and
the messages about its faults ask for it; the rest of an expression is dropped.
-/

namespace ReportPress.Markup.Expression

/-- A constant. -/
inductive Constant
  | none
  | yes
  | no
  | ellipsis
  | number (isImaginary : Bool)
  | text
  | bytes
  deriving DecidableEq

/-- A syntax tree. Beside the expressions there are the trees of their parts: tokens, rows of trees
and the values given in a call. -/
inductive Tree
  | name (word : String)
  | constant (value : Constant)
  | computedText
  | tuple (items : List Tree)
  | set (items : List Tree)
  | dictionary (entries : List Tree)
  | call (function : Tree) (isEmpty : Bool)
  | attribute
  | signed (operand : Tree)
  | sum (left right : Tree)
  | operation
  | comparison (sign : Tree) (left : Tree)
  | conditional
  | named
  | starred (operand : Tree)
  | smallFunction
  | yielded
  | awaited
  | generator
  | setComprehension
  | dictionaryComprehension
  | token (token : Token)
  | row (items : List Tree)
  | values (positional : List Tree) (keywords : List Bool)
  deriving Inhabited

namespace Tree

/-- The trees of a row. -/
def items : Tree → List Tree
  | .row items => items
  | _ => []

/-- The word of a token that is a name or a sign. -/
def word? : Tree → Option String
  | .token ⟨.name word, _, _, _⟩ | .token ⟨.sign word, _, _, _⟩ => some word
  | _ => none

/-- What an expression is called in messages. -/
def kind : Tree → String
  | .name _ => "name"
  | .constant .none => "None"
  | .constant .yes => "True"
  | .constant .no => "False"
  | .constant .ellipsis => "ellipsis"
  | .constant _ => "literal"
  | .computedText => "f-string expression"
  | .tuple _ => "tuple"
  | .set _ => "set display"
  | .dictionary _ => "dict literal"
  | .call _ _ => "function call"
  | .attribute => "attribute"
  | .signed _ | .sum _ _ | .operation => "expression"
  | .comparison _ _ => "comparison"
  | .conditional => "conditional expression"
  | .named => "named expression"
  | .starred _ => "starred"
  | .smallFunction => "lambda"
  | .yielded => "yield expression"
  | .awaited => "await expression"
  | .generator => "generator expression"
  | .setComprehension => "set comprehension"
  | .dictionaryComprehension => "dict comprehension"
  | .token _ | .row _ | .values _ _ => ""

mutual

/-- The first part of an expression to which nothing can be assigned, where the expression stands
behind `for`. Of a comparison that starts with `in` only the left side stands there. -/
def barrier? : Tree → Option Tree
  | .tuple items => firstBarrier? items
  | .starred operand => barrier? operand
  | .comparison sign left => if sign.word? = some "in" then barrier? left else none
  | .name _ | .attribute => none
  | other => some other

def firstBarrier? : List Tree → Option Tree
  | [] => none
  | first :: rest => (barrier? first).or (firstBarrier? rest)

end

end Tree

/-! ### Values of literals -/

/-- The value of a literal, as far as it tells whether it may be an item of a set: a set or a
dictionary may not. -/
inductive Value
  | plain
  | tuple (items : List Value)
  | set
  | dictionary

/-- Why an expression is no literal: it is something else, an entry of a dictionary has no key, or
an item of a set or a key of a dictionary may be none. -/
inductive LiteralProblem
  | noLiteral
  | noKey
  | unfit (kind : String)
  deriving DecidableEq

def LiteralProblem.message : LiteralProblem → String
  | .noLiteral => "malformed node or string"
  | .noKey => "malformed node or string: None"
  | .unfit kind => "unhashable type: '" ++ kind ++ "'"

mutual

/-- What keeps a value out of a set, if anything does. -/
def Value.unfit? : Value → Option String
  | .plain => none
  | .tuple items => Value.anyUnfit? items
  | .set => some "set"
  | .dictionary => some "dict"

def Value.anyUnfit? : List Value → Option String
  | [] => none
  | first :: rest => (Value.unfit? first).or (Value.anyUnfit? rest)

end

namespace Tree

/-- A value that may be an item of a set. -/
def fit (value : Value) : Except LiteralProblem Unit :=
  match value.unfit? with
  | some kind => .error (.unfit kind)
  | none => .ok ()

/-- Whether an expression is a number with a real value, which may have a sign. -/
def isReal : Tree → Bool
  | .constant (.number isImaginary) | .signed (.constant (.number isImaginary)) => !isImaginary
  | _ => false

mutual

/-- The value of an expression that is a literal. A sum must be one of a real and an imaginary
number. -/
def literal : Tree → Except LiteralProblem Value
  | .constant _ => .ok .plain
  | .tuple items => (literals items).map .tuple
  | .set items => (setOf items).map fun _ => .set
  | .call (.name "set") true => .ok .set
  | .dictionary entries => (dictionaryOf entries).map fun _ => .dictionary
  | .signed (.constant (.number _)) => .ok .plain
  | .sum left (.constant (.number true)) =>
    if left.isReal then .ok .plain else .error .noLiteral
  | _ => .error .noLiteral

def literals : List Tree → Except LiteralProblem (List Value)
  | [] => .ok []
  | first :: rest => do
    let value ← literal first
    return value :: (← literals rest)

/-- The items of a set, each checked before the next is read. -/
def setOf : List Tree → Except LiteralProblem Unit
  | [] => .ok ()
  | first :: rest => do
    fit (← literal first)
    setOf rest

/-- The entries of a dictionary, each checked before the next is read. -/
def dictionaryOf : List Tree → Except LiteralProblem Unit
  | [] => .ok ()
  | .row [key, value] :: rest => do
    let key ← literal key
    let _ ← literal value
    fit key
    dictionaryOf rest
  | _ :: _ => .error .noKey

end

end Tree

end ReportPress.Markup.Expression
