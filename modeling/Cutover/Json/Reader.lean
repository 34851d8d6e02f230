import Cutover.Json.Basic
import Cutover.Text.Numeral

/-!
# Reading data values

A value from its text.  The words `NaN` and `Infinity` are numbers, of two members with one name the
later one is kept, and nothing but blanks may follow the value.
-/

namespace Cutover.Json

open Text

/-- The blanks allowed between the parts of a text. -/
def isGap (c : Char) : Bool :=
  c == ' ' || c == '\t' || c == '\n' || c == '\r'

/-- The text after the blanks at its start. -/
def skipGap (cs : List Char) : List Char :=
  cs.dropWhile isGap

/-- Read up to the closing quote: the code units of the text and what follows the quote. -/
def readUnits : List Char → Option (List Nat × List Char)
  | [] => none
  | '"' :: rest => some ([], rest)
  | '\\' :: 'u' :: a :: b :: c :: d :: rest =>
    match Numeral.readHex? [a, b, c, d], readUnits rest with
    | some n, some (units, rest) => some (n :: units, rest)
    | _, _ => none
  | '\\' :: c :: rest =>
    let unit : Option Nat :=
      match c with
      | '"' => some 34
      | '\\' => some 92
      | '/' => some 47
      | 'b' => some 8
      | 'f' => some 12
      | 'n' => some 10
      | 'r' => some 13
      | 't' => some 9
      | _ => none
    match unit, readUnits rest with
    | some n, some (units, rest) => some (n :: units, rest)
    | _, _ => none
  | c :: rest =>
    if c.toNat < 32 || c = '\\' then none
    else (readUnits rest).map fun (units, rest) => (c.toNat :: units, rest)

/-- The character with a number; a number that is none gives the replacement character. -/
def character (n : Nat) : Char :=
  if n.isValidChar then Char.ofNat n else Char.ofNat 0xFFFD

/-- The characters that code units stand for: a high unit and a low one after it make one character. -/
def joinUnits : List Nat → List Char
  | [] => []
  | [n] => [character n]
  | high :: low :: rest =>
    if 0xD800 ≤ high && high < 0xDC00 && 0xDC00 ≤ low && low < 0xE000 then
      character (0x10000 + (high - 0xD800) * 0x400 + (low - 0xDC00)) :: joinUnits rest
    else character high :: joinUnits (low :: rest)

/-- Read the rest of a text after its opening quote. -/
def readText (cs : List Char) : Option (String × List Char) :=
  (readUnits cs).map fun (units, rest) => (String.ofList (joinUnits units), rest)

/-- Read a number without its sign. -/
def readMagnitude (negative : Bool) (cs : List Char) : Option (Json × List Char) :=
  let (whole, rest) := cs.span Numeral.isDigit
  let (whole, rest) :=
    match whole with
    | '0' :: more => (['0'], more ++ rest)
    | _ => (whole, rest)
  if whole.isEmpty then none
  else
    let (places, afterPlaces) :=
      match rest with
      | '.' :: after =>
        let (places, others) := after.span Numeral.isDigit
        if places.isEmpty then ([], rest) else (places, others)
      | _ => ([], rest)
    let (exponent, afterExponent) : Option Int × List Char :=
      match afterPlaces with
      | e :: after =>
        if e = 'e' || e = 'E' then
          let (sign, digitsAndRest) : Int × List Char :=
            match after with
            | '-' :: more => (-1, more)
            | '+' :: more => (1, more)
            | _ => (1, after)
          let (digits, others) := digitsAndRest.span Numeral.isDigit
          if digits.isEmpty then (none, afterPlaces) else (some (sign * Numeral.read digits), others)
        else (none, afterPlaces)
      | [] => (none, [])
    if places.isEmpty && exponent.isNone then
      let n : Int := Numeral.read whole
      some (.int (if negative then -n else n), afterExponent)
    else
      let digits := Numeral.read (whole ++ places)
      some (.float (.ofDecimal negative digits (exponent.getD 0 - places.length)), afterExponent)

/-- Read a number. -/
def readNumber : List Char → Option (Json × List Char)
  | '-' :: 'I' :: 'n' :: 'f' :: 'i' :: 'n' :: 'i' :: 't' :: 'y' :: rest =>
    some (.float (.infinite true), rest)
  | '-' :: rest => readMagnitude true rest
  | cs => readMagnitude false cs

mutual

/-- Read a value at the start of a text; `fuel` bounds its depth and its number of parts. -/
def readValue : Nat → List Char → Option (Json × List Char)
  | 0, _ => none
  | fuel + 1, cs =>
    match cs with
    | '"' :: rest => (readText rest).map fun (s, rest) => (.str s, rest)
    | '[' :: rest =>
      match skipGap rest with
      | ']' :: rest => some (.arr [], rest)
      | rest => (readItems fuel rest).map fun (items, rest) => (.arr items, rest)
    | '\x7b' :: rest =>
      match skipGap rest with
      | '\x7d' :: rest => some (.obj [], rest)
      | rest => (readMembers fuel [] rest).map fun (members, rest) => (.obj members, rest)
    | 'n' :: 'u' :: 'l' :: 'l' :: rest => some (.null, rest)
    | 't' :: 'r' :: 'u' :: 'e' :: rest => some (.bool true, rest)
    | 'f' :: 'a' :: 'l' :: 's' :: 'e' :: rest => some (.bool false, rest)
    | 'N' :: 'a' :: 'N' :: rest => some (.float .nan, rest)
    | 'I' :: 'n' :: 'f' :: 'i' :: 'n' :: 'i' :: 't' :: 'y' :: rest =>
      some (.float (.infinite false), rest)
    | cs => readNumber cs

/-- Read the items of a list up to its closing bracket. -/
def readItems : Nat → List Char → Option (List Json × List Char)
  | 0, _ => none
  | fuel + 1, cs =>
    match readValue fuel cs with
    | none => none
    | some (item, rest) =>
      match skipGap rest with
      | ']' :: rest => some ([item], rest)
      | ',' :: rest =>
        (readItems fuel (skipGap rest)).map fun (items, rest) => (item :: items, rest)
      | _ => none

/-- Read the members of an object up to its closing brace, after those in `members`. -/
def readMembers : Nat → Fields → List Char → Option (Fields × List Char)
  | 0, _, _ => none
  | fuel + 1, members, cs =>
    match cs with
    | '"' :: rest =>
      match readText rest with
      | none => none
      | some (name, rest) =>
        match skipGap rest with
        | ':' :: rest =>
          match readValue fuel (skipGap rest) with
          | none => none
          | some (value, rest) =>
            match skipGap rest with
            | '\x7d' :: rest => some (members.set name value, rest)
            | ',' :: rest => readMembers fuel (members.set name value) (skipGap rest)
            | _ => none
        | _ => none
    | _ => none

end

/-- The value that a text stands for, if the text holds one value and blanks around it. -/
def read? (s : String) : Option Json :=
  let cs := skipGap s.toList
  match readValue (cs.length + 1) cs with
  | some (value, rest) => if (skipGap rest).isEmpty then some value else none
  | none => none

end Cutover.Json
