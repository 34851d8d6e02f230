import Cutover.Text.Blank
import Cutover.Text.Letter
import Cutover.Text.Split
import Cutover.Validation.Basic

/-!
# The forms of single values

Checks of texts, flags, integers, timestamps and lists.  They are lenient: a flag may be given as one of
a few words, an integer as a text of digits, a timestamp as a number of seconds.
-/

namespace Cutover.Checked

open Text

/-- A text. -/
def text : Json → Checked String
  | .str s => .ok s
  | _ => fault .notText

/-- A text or nothing. -/
def optionalText : Json → Checked (Option String)
  | .null => .ok none
  | value => (text value).map some

/-- The words for no and for yes, in lower case. -/
def flagWord? (word : String) : Option Bool :=
  if ["0", "off", "f", "false", "n", "no"].contains word then some false
  else if ["1", "on", "t", "true", "y", "yes"].contains word then some true
  else none

/-- Whether an integer fits in 64 bits with a sign. -/
def fitsWord (n : Int) : Bool :=
  -9223372036854775808 ≤ n && n ≤ 9223372036854775807

/-- A flag: a truth value, a zero or a one, or a word for one of them. -/
def flag : Json → Checked Bool
  | .bool b => .ok b
  | .str s =>
    match flagWord? (lower s) with
    | some b => .ok b
    | none => fault .unreadFlag
  | .int n =>
    if n = 0 then .ok false
    else if n = 1 then .ok true
    else fault (if fitsWord n then .unreadFlag else .notFlag)
  | .float x =>
    match x.toInt? with
    | some n =>
      if n = 0 then .ok false
      else if n = 1 then .ok true
      else fault (if fitsWord n then .unreadFlag else .notFlag)
    | none => fault .notFlag
  | _ => fault .notFlag

/-- Digits with single underscores between them. -/
def digitGroups? (cs : List Char) : Option Nat :=
  let groups := split '_' cs
  if groups.all fun group => !group.isEmpty && group.all Numeral.isDigit then
    some (Numeral.read groups.flatten)
  else none

/-- The integer that a text stands for: digits with a sign perhaps in front and a point and zeros
perhaps behind, between any white space. -/
def readInteger? (s : String) : Option Int :=
  let cs := trimWhile isWhiteSpace s.toList
  let (negative, cs) := match cs with
    | '-' :: rest => (true, rest)
    | '+' :: rest => (false, rest)
    | _ => (false, cs)
  let whole? := match split '.' cs with
    | [whole] => some whole
    | [whole, places] =>
      if !places.isEmpty && places.all (· == '0') then some whole else none
    | _ => none
  (whole?.bind digitGroups?).map fun n => if negative then -(n : Int) else n

/-- The most characters of a text that is read as an integer. -/
def integerTextLimit : Nat := 4300

/-- An integer: a whole number, a truth value, or a text of digits. -/
def integer : Json → Checked Int
  | .int n => .ok n
  | .bool b => .ok (if b then 1 else 0)
  | .float x =>
    match x with
    | .finite .. =>
      match x.toInt? with
      | some n => if fitsWord n then .ok n else fault .oversized
      | none => fault .fractional
    | _ => fault .notFinite
  | .str s =>
    if integerTextLimit < s.length then fault .oversized
    else
      match readInteger? s with
      | some n => .ok n
      | none => fault .unreadInteger
  | _ => fault .notInteger

/-- An integer between two bounds. -/
def integerWithin (least greatest : Int) (value : Json) : Checked Int :=
  (integer value).bind fun n =>
    if n < least then fault (.tooSmall least)
    else if greatest < n then fault (.tooLarge greatest)
    else .ok n

/-- A timestamp: a text, or a number of seconds since the start of 1970. -/
def timestamp : Json → Checked Timestamp
  | .str s => ofReading .unreadTimestamp (Timestamp.read s)
  | .int n => ofReading .timestampBeyond (Timestamp.ofSeconds n 0)
  | .float x => ofReading .timestampBeyond (Timestamp.ofFloatSeconds x)
  | _ => fault .notTimestamp
where
  ofReading (kind : DateFault → FaultKind) : Except DateFault Timestamp → Checked Timestamp
    | .ok t => .ok t
    | .error reason => fault (kind reason)

/-- A timestamp or nothing. -/
def optionalTimestamp : Json → Checked (Option Timestamp)
  | .null => .ok none
  | value => (timestamp value).map some

/-- A list whose items pass `check`. -/
def list {α : Type} (check : Json → Checked α) : Json → Checked (List α)
  | .arr values => items check 0 values
  | _ => fault .notList

/-- A list in a field of fixed order. -/
def tuple {α : Type} (check : Json → Checked α) : Json → Checked (List α)
  | .arr values => items check 0 values
  | _ => fault .notTuple

/-- A list of texts. -/
def texts : Json → Checked (List String) := list text

/-- An object with any members. -/
def mapping : Json → Checked Fields
  | .obj members => .ok members
  | _ => fault .notMapping

/-- The first of the names under which a field is given, with its value. -/
def given? (fields : Fields) : List String → Option (String × Json)
  | [] => none
  | name :: names =>
    match fields.get? name with
    | some value => some (name, value)
    | none => given? fields names

/-- A field that must be given under one of two names; a fault names the one that was used. -/
def requiredField {α : Type} (check : Json → Checked α) (fields : Fields) (names : String × String) :
    Checked α :=
  match given? fields [names.1, names.2] with
  | some (name, value) => (check value).under (.member name)
  | none => (fault .missing).under (.member names.1)

/-- A field that may be left out. -/
def optionalField {α : Type} (check : Json → Checked α) (default : α) (fields : Fields)
    (names : String × String) : Checked α :=
  match given? fields [names.1, names.2] with
  | some (name, value) => (check value).under (.member name)
  | none => .ok default

end Cutover.Checked
