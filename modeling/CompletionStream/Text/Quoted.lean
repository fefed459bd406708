import CompletionStream.Text.Class
import CompletionStream.Text.Printable

/-!
# Quoted text — a text between quotes, with everything unprintable escaped

The quote is the apostrophe, unless the text holds apostrophes and no double quotes. The
quote in use and the backslash are escaped, the common controls have short escapes, and every
other unprintable character is written as its code point in two, four or eight digits.
-/

namespace CompletionStream.Text

/-- The quote for a text. -/
def quoteFor (cs : List Char) : Char :=
  if cs.contains '\'' && !cs.contains '"' then '"' else '\''

/-- A character inside quotes. -/
def quoteChar (quote c : Char) : List Char :=
  if c = quote ∨ c = '\\' then ['\\', c]
  else if c = '\t' then ['\\', 't']
  else if c = '\n' then ['\\', 'n']
  else if c = '\r' then ['\\', 'r']
  else if isPrintable c then [c]
  else if c.toNat < 0x100 then '\\' :: 'x' :: hex 2 c.toNat
  else if c.toNat < 0x10000 then '\\' :: 'u' :: hex 4 c.toNat
  else '\\' :: 'U' :: hex 8 c.toNat

/-- A text between quotes. -/
def quoted (s : String) : String :=
  let cs := s.toList
  let quote := quoteFor cs
  String.ofList (quote :: cs.flatMap (quoteChar quote) ++ [quote])

/-- A character of a quoted text in ASCII: beyond it, the code point is written. -/
def asciiChar (c : Char) : List Char :=
  if c.toNat < 0x80 then [c]
  else if c.toNat < 0x100 then '\\' :: 'x' :: hex 2 c.toNat
  else if c.toNat < 0x10000 then '\\' :: 'u' :: hex 4 c.toNat
  else '\\' :: 'U' :: hex 8 c.toNat

/-- Escapes everything beyond ASCII in a text that is already quoted. -/
def asciiOnly (s : String) : String :=
  String.ofList (s.toList.flatMap asciiChar)

end CompletionStream.Text
