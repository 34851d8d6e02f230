import Cutover.Text.Numeral
import Cutover.Text.Printable

/-!
# Quoted texts

A text in quotes, as messages show it: between apostrophes, or between double quotes if it holds an
apostrophe and no double quote.  The quote in use and the backslash are written after a backslash,
line breaks and tabs by their letter, other characters that cannot be seen by their number.
-/

namespace Cutover.Text.Quoted

/-- The quote that goes around a text. -/
def quoteFor (cs : List Char) : Char :=
  if cs.contains '\'' && !cs.contains '"' then '"' else '\''

/-- The form of one character between two `quote`s. -/
def escape (quote c : Char) : List Char :=
  let n := c.toNat
  if c = quote || c = '\\' then ['\\', c]
  else if c = '\n' then ['\\', 'n']
  else if c = '\r' then ['\\', 'r']
  else if c = '\t' then ['\\', 't']
  else if isPrintable c then [c]
  else if n < 0x100 then '\\' :: 'x' :: Numeral.writeHex 2 n
  else if n < 0x10000 then '\\' :: 'u' :: Numeral.writeHex 4 n
  else '\\' :: 'U' :: Numeral.writeHex 8 n

/-- A text in quotes. -/
def write (cs : List Char) : List Char :=
  let quote := quoteFor cs
  quote :: cs.flatMap (escape quote) ++ [quote]

/-- `write` on strings. -/
def quoted (s : String) : String :=
  String.ofList (write s.toList)

end Cutover.Text.Quoted
