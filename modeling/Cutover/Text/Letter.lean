/-!
# Letter case

Upper and lower case where the result is compared with ASCII words.  A few characters outside ASCII
have an upper-case form inside it: the dotless i, the long s, the sharp s and the Latin ligatures.
-/

namespace Cutover.Text

/-- The upper-case form of a character, which may be several.  Outside ASCII it is given only where
it lies inside ASCII; any other character stands for itself. -/
def upperForm (c : Char) : List Char :=
  match c.toNat with
  | 0xDF => ['S', 'S']
  | 0x131 => ['I']
  | 0x17F => ['S']
  | 0xFB00 => ['F', 'F']
  | 0xFB01 => ['F', 'I']
  | 0xFB02 => ['F', 'L']
  | 0xFB03 => ['F', 'F', 'I']
  | 0xFB04 => ['F', 'F', 'L']
  | 0xFB05 => ['S', 'T']
  | 0xFB06 => ['S', 'T']
  | _ => [c.toUpper]

/-- A text in upper case, as far as the result can be an ASCII word. -/
def upper (s : String) : String :=
  String.ofList (s.toList.flatMap upperForm)

/-- A text with its ASCII letters in lower case. -/
def lower (s : String) : String :=
  String.ofList (s.toList.map Char.toLower)

end Cutover.Text
