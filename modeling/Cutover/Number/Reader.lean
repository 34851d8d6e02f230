import Cutover.Number.Binary64
import Cutover.Text.Digit

/-!
# Reading numbers

The floating point number that a text stands for: digits of any script with a point among them, perhaps a
sign in front and an exponent behind, or one of the words for what is no finite number.
-/

namespace Cutover.Binary64

open Text

/-- A text without its sign, and whether that was a minus. -/
def readSign : List Char → Bool × List Char
  | '-' :: cs => (true, cs)
  | '+' :: cs => (false, cs)
  | cs => (false, cs)

/-- A row of digits as a number. -/
def readDigits? (cs : List Char) : Option Nat :=
  (Digit.values? cs).map (·.foldl (fun n d => 10 * n + d) 0)

/-- The exponent at the end of a number; nothing stands for zero. -/
def readExponent? : List Char → Option Int
  | [] => some 0
  | e :: cs =>
    if e = 'e' || e = 'E' then
      let (negative, digits) := readSign cs
      if digits.isEmpty then none
      else (readDigits? digits).map fun n => if negative then -(n : Int) else n
    else none

/-- The number that a text stands for. -/
def read? (cs : List Char) : Option Binary64 :=
  let (negative, cs) := readSign (trimWhile isWhiteSpace cs)
  let word := cs.map Char.toLower
  if word = "inf".toList || word = "infinity".toList then some (.infinite negative)
  else if word = "nan".toList then some .nan
  else
    let isDigit (c : Char) : Bool := (Digit.value? c).isSome
    let (whole, rest) := cs.span isDigit
    let (places, rest) := match rest with
      | '.' :: rest => rest.span isDigit
      | _ => ([], rest)
    if whole.isEmpty && places.isEmpty then none
    else do
      let exponent ← readExponent? rest
      let digits ← readDigits? (whole ++ places)
      some (ofDecimal negative digits (exponent - places.length))

end Cutover.Binary64
