import Cutover.Text.Blank
import Cutover.Text.Numeral
import Cutover.Text.Split

/-!
# Digits of all scripts

The decimal digits of every script, which stand in rows of ten in the order of their values, and integers
written with them.  Main statement: `Digit.value?_ascii`, the ASCII digits have their usual values.
-/

namespace Cutover.Text.Digit

/-- The numbers of the zeros of all scripts. -/
def zeros : List Nat :=
  [
    0x30, 0x660, 0x6F0, 0x7C0, 0x966, 0x9E6, 0xA66, 0xAE6, 0xB66, 0xBE6, 0xC66, 0xCE6, 0xD66, 0xDE6,
    0xE50, 0xED0, 0xF20, 0x1040, 0x1090, 0x17E0, 0x1810, 0x1946, 0x19D0, 0x1A80, 0x1A90, 0x1B50,
    0x1BB0, 0x1C40, 0x1C50, 0xA620, 0xA8D0, 0xA900, 0xA9D0, 0xA9F0, 0xAA50, 0xABF0, 0xFF10, 0x104A0,
    0x10D30, 0x11066, 0x110F0, 0x11136, 0x111D0, 0x112F0, 0x11450, 0x114D0, 0x11650, 0x116C0,
    0x11730, 0x118E0, 0x11950, 0x11C50, 0x11D50, 0x11DA0, 0x16A60, 0x16AC0, 0x16B50, 0x1D7CE,
    0x1D7D8, 0x1D7E2, 0x1D7EC, 0x1D7F6, 0x1E140, 0x1E2F0, 0x1E950, 0x1FBF0
  ]

/-- The value of a digit of any script. -/
def value? (c : Char) : Option Nat :=
  (zeros.find? fun first => first ≤ c.toNat && c.toNat < first + 10).map (c.toNat - ·)

/-- The values of digits. -/
def values? (cs : List Char) : Option (List Nat) :=
  cs.mapM value?

/-- The most digits of an integer that is read. -/
def limit : Nat := 4300

/-- The number written by digits in groups with single underscores between them. -/
def readGroups? (cs : List Char) : Option Nat := do
  let groups ← (split '_' cs).mapM values?
  if groups.any (·.isEmpty) then none
  else
    let digits := groups.flatten
    if limit < digits.length then none
    else some (digits.foldl (fun n d => 10 * n + d) 0)

/-- The integer that a text stands for: digits with a sign perhaps in front, between any white space. -/
def readInteger? (s : String) : Option Int :=
  match trimWhile isWhiteSpace s.toList with
  | '-' :: rest => (readGroups? rest).map fun n => -(n : Int)
  | '+' :: rest => (readGroups? rest).map fun n => (n : Int)
  | cs => (readGroups? cs).map fun n => (n : Int)

/-- The value of a digit of any script, or of a letter that goes on behind nine, below a base. -/
def valueBelow? (base : Nat) (c : Char) : Option Nat :=
  ((value? c).or (Numeral.hexValue? c)).filter (· < base)

/-- The letter in front of digits that tells their base. -/
def baseLetter : Nat → Char
  | 2 => 'b'
  | 8 => 'o'
  | _ => 'x'

/-- The integer that a text stands for in base 2, 8 or 16: digits with a sign and the letter of the base
perhaps in front, between any white space. -/
def readInBase? (base : Nat) (cs : List Char) : Option Int :=
  let digits? (cs : List Char) : Option Nat :=
    let digits := match cs with
      | '0' :: letter :: rest => if letter.toLower = baseLetter base then rest else cs
      | _ => cs
    if digits.isEmpty then none
    else (digits.mapM (valueBelow? base)).map (·.foldl (fun n d => base * n + d) 0)
  match trimWhile isWhiteSpace cs with
  | '-' :: rest => (digits? rest).map fun n => -(n : Int)
  | '+' :: rest => (digits? rest).map fun n => (n : Int)
  | cs => (digits? cs).map fun n => (n : Int)

/-- The ASCII digits have their usual values. -/
theorem value?_ascii : "0123456789".toList.map value? = (List.range 10).map some := by decide

end Cutover.Text.Digit
