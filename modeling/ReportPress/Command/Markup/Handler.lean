import ReportPress.Command.Markup.Expression

/-!
Handlers in tags of console markup. The parameters of such a tag are the name of a handler with
arguments in brackets, or the arguments alone; the arguments must be a literal.
-/

namespace ReportPress.Markup.Handler

/-- What is wrong with arguments: they are no expression, or one that is no literal. -/
inductive ArgumentProblem
  | fault (fault : Expression.Fault)
  | noLiteral (problem : Expression.LiteralProblem)
  deriving DecidableEq

/-- What is wrong with a text of arguments, if anything is. -/
def problem? (cs : List Char) : Option ArgumentProblem :=
  match Expression.read cs with
  | .error fault => some (.fault fault)
  | .ok tree =>
    match tree.literal with
    | .error problem => some (.noLiteral problem)
    | .ok _ => none

/-- The arguments in the parameters of a tag: what stands in brackets behind the name of a handler,
none where nothing does, or else all of it. -/
def arguments (parameters : List Char) : List Char :=
  match parameters.dropWhile fun c => Text.isWordPart c || c == '.' with
  | [] => ['(', ')']
  | '(' :: rest =>
    if rest.getLast? == some ')' && !rest.contains '\n' then '(' :: rest else parameters
  | _ => parameters

end ReportPress.Markup.Handler
