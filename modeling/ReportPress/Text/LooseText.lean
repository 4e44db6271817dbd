import ReportPress.Text.Utf8

/-!
Text that may hold lone surrogates. A surrogate is a code point that stands for no character, and
bytes have no place for it: a text that holds one can be put together and passed on, but not
encoded. What is wrong with it is told by the first run of surrogates.
-/

namespace ReportPress

/-- A character, or a surrogate by its number among them. -/
inductive CodePoint
  | char (c : Char)
  | surrogate (index : Fin 0x800)
  deriving DecidableEq

/-- Whether a code point is a surrogate. -/
def CodePoint.isSurrogate : CodePoint → Bool
  | .char _ => false
  | .surrogate _ => true

/-- The first surrogates of a text: `count` of them from `position` on, the first being `first`. -/
structure Text.Utf8.EncodeError where
  position : Nat
  count : Nat
  first : Fin 0x800
  deriving DecidableEq

def Text.Utf8.EncodeError.message (e : EncodeError) : String :=
  let place :=
    if e.count = 1 then
      "character '\\u" ++ String.ofList (hexDigits 4 (0xD800 + e.first)) ++ "' in position " ++
        e.position.repr
    else
      "characters in position " ++ e.position.repr ++ "-" ++ (e.position + e.count - 1).repr
  "'utf-8' codec can't encode " ++ place ++ ": surrogates not allowed"

/-- A text that may hold lone surrogates. -/
structure LooseText where
  points : List CodePoint
  deriving DecidableEq

namespace LooseText

open Text.Utf8 (EncodeError)

/-- A text without surrogates. -/
def ofString (s : String) : LooseText := ⟨s.toList.map .char⟩

instance : Coe String LooseText := ⟨ofString⟩

instance : Append LooseText := ⟨fun front back => ⟨front.points ++ back.points⟩⟩

/-- The lines as one text, a line feed between two neighbours. -/
def joinLines (lines : List LooseText) : LooseText :=
  ⟨[CodePoint.char '\n'].intercalate (lines.map points)⟩

/-- The characters of code points that start `position` code points into a text. -/
def charsFrom (position : Nat) : List CodePoint → Except EncodeError (List Char)
  | [] => .ok []
  | .char c :: rest => (charsFrom (position + 1) rest).map (c :: ·)
  | .surrogate first :: rest =>
    .error ⟨position, 1 + (rest.takeWhile CodePoint.isSurrogate).length, first⟩

/-- The text as one without surrogates. -/
def plain (text : LooseText) : Except EncodeError String :=
  (charsFrom 0 text.points).map String.ofList

/-- The bytes of the text. -/
def encode (text : LooseText) : Except EncodeError (List UInt8) := text.plain.map Text.Utf8.encode

/-- The bytes that are in a file once the text was written to it: none if it cannot be encoded. -/
def written (text : LooseText) : List UInt8 :=
  match text.encode with
  | .ok bytes => bytes
  | .error _ => []

end LooseText

end ReportPress
