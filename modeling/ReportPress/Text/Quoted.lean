import ReportPress.Text.Hex
import ReportPress.Text.Printable

/-!
Quoted text. The quote is the apostrophe, or the double quote for text that holds an apostrophe and
no double quote. The backslash, the quote in use and the unprintable characters are escaped, the
last by their code in two, four or eight hexadecimal digits.
-/

namespace ReportPress.Text

/-- A character between the quotes `quote`. -/
def quotedChar (quote c : Char) : List Char :=
  if c = '\\' ∨ c = quote then ['\\', c]
  else if c = '\n' then ['\\', 'n']
  else if c = '\r' then ['\\', 'r']
  else if c = '\t' then ['\\', 't']
  else if isPrintable c then [c]
  else if c.toNat < 0x100 then '\\' :: 'x' :: hexDigits 2 c.toNat
  else if c.toNat < 0x10000 then '\\' :: 'u' :: hexDigits 4 c.toNat
  else '\\' :: 'U' :: hexDigits 8 c.toNat

/-- The quote that a text is written between. -/
def quoteFor (cs : List Char) : Char :=
  if cs.contains '\'' && !cs.contains '"' then '"' else '\''

/-- The text between quotes. -/
def quotedChars (cs : List Char) : List Char :=
  quoteFor cs :: (cs.flatMap (quotedChar (quoteFor cs)) ++ [quoteFor cs])

/-- The text between quotes. -/
def quoted (s : String) : String := String.ofList (quotedChars s.toList)

end ReportPress.Text
