import ReportPress.Command.Markup.Color

/-!
Styles of console markup. A style is written as words, in any order and with short names for its
effects; two styles are the same if they have the same normal form, in which each effect is named in
full and in a fixed order.
-/

namespace ReportPress.Markup

/-- What a style may switch on or off. -/
inductive Effect
  | bold
  | dim
  | italic
  | underline
  | blink
  | fastBlink
  | reverse
  | conceal
  | strike
  | doubleUnderline
  | frame
  | encircle
  | overline
  deriving DecidableEq

namespace Effect

/-- The effects in the order of the normal form. -/
def all : List Effect :=
  [bold, dim, italic, underline, blink, fastBlink, reverse, conceal, strike, doubleUnderline, frame,
    encircle, overline]

/-- The full name of an effect, and its short name if it has one. -/
def names : Effect → String × Option String
  | bold => ("bold", some "b")
  | dim => ("dim", some "d")
  | italic => ("italic", some "i")
  | underline => ("underline", some "u")
  | blink => ("blink", none)
  | fastBlink => ("blink2", none)
  | reverse => ("reverse", some "r")
  | conceal => ("conceal", some "c")
  | strike => ("strike", some "s")
  | doubleUnderline => ("underline2", some "uu")
  | frame => ("frame", none)
  | encircle => ("encircle", none)
  | overline => ("overline", some "o")

/-- The effect of a full or short name. -/
def ofName? (word : String) : Option Effect :=
  all.find? fun effect => effect.names.1 == word || effect.names.2 == some word

end Effect

/-- A style: the effects that it switches, the last one first, its colors and its link. -/
structure Style where
  effects : List (Effect × Bool)
  color : Option String
  background : Option String
  link : Option String

namespace Style

/-- The style that changes nothing. -/
def plain : Style := ⟨[], none, none, none⟩

/-- The style with more words read into it. -/
def read (style : Style) : List String → Except StyleProblem Style
  | [] => .ok style
  | [original] =>
    let word := Text.lower original
    if word = "on" ∨ word = "not" ∨ word = "link" then .error .unknown
    else
      match Effect.ofName? word with
      | some effect => .ok { style with effects := (effect, true) :: style.effects }
      | none => (colorOf word).map fun color => { style with color := some color }
  | original :: next :: rest =>
    let word := Text.lower original
    if word = "on" then do
      let color ← colorOf next
      read { style with background := some color } rest
    else if word = "not" then
      match Effect.ofName? next with
      | some effect => read { style with effects := (effect, false) :: style.effects } rest
      | none => .error .unknown
    else if word = "link" then read { style with link := some next } rest
    else
      match Effect.ofName? word with
      | some effect => read { style with effects := (effect, true) :: style.effects } (next :: rest)
      | none => do
        let color ← colorOf word
        read { style with color := some color } (next :: rest)

/-- The words that say what an effect is switched to. -/
def effectWords (style : Style) (effect : Effect) : List String :=
  match style.effects.lookup effect with
  | some true => [effect.names.1]
  | some false => ["not", effect.names.1]
  | none => []

/-- The normal form of a style. -/
def text (style : Style) : String :=
  let words := Effect.all.flatMap style.effectWords ++ style.color.toList ++
    (style.background.map fun color => ["on", color]).getD [] ++
    (style.link.map fun link => ["link", link]).getD []
  if words.isEmpty then "none" else " ".intercalate words

end Style

/-- The name by which a style is opened and closed: its normal form, or for words that are no style
the words themselves in small letters. -/
def styleName (cs : List Char) : Except Statistics.FigureError String :=
  let trimmed := String.ofList (Text.trim Text.isBlank cs)
  if trimmed = "none" then .ok trimmed
  else
    match Style.plain.read ((Text.words cs).map String.ofList) with
    | .ok style => .ok style.text
    | .error .unknown => .ok (Text.lower trimmed)
    | .error (.component e) => .error e

theorem Effect.ofName?_names (effect : Effect) : ofName? effect.names.1 = some effect := by
  cases effect <;> decide +kernel

end ReportPress.Markup
