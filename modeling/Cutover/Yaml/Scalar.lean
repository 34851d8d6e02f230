import Cutover.Json.Basic
import Cutover.Number.Reader
import Cutover.Text.Letter
import Cutover.Text.Quoted
import Cutover.Text.Utf8
import Cutover.Time.Calendar

/-!
# Texts that stand for values

The kinds of parts that a document can have, the kind that a plain text has of itself, and the value of a
text of a known kind.
-/

namespace Cutover.Yaml

open Text

/-- What a part of a document is. -/
inductive Kind where
  | null
  | bool
  | int
  | float
  | time
  | bytes
  | text
  | list
  | table
  | set
  /-- A list of entries, whose order counts. -/
  | entries
  /-- The sign for tables that are taken over. -/
  | merge
  /-- The sign for the value of a table that may stand for a single value. -/
  | standIn
  | unknown
  deriving DecidableEq, Repr

/-- Why a document has no value. -/
inductive Fault where
  /-- It does not follow the form. -/
  | malformed
  /-- A text is no integer in a base. -/
  | integer (text : String) (base : Nat)
  /-- A text is no number. -/
  | number (text : String)
  | year (n : Int)
  | month
  | day
  | hour
  | minute
  | second
  /-- A text is none of the words for yes and no. -/
  | word
  /-- A text has not the form of a time. -/
  | form
  /-- There are no digits. -/
  | noDigits
  deriving DecidableEq, Repr

/-- The wording of a fault of a value. -/
def Fault.message : Fault → String
  | .integer text base =>
    s!"invalid literal for int() with base {base}: {Quoted.quoted text}"
  | .number text => s!"could not convert string to float: {Quoted.quoted text}"
  | .year n => s!"year {n} is out of range"
  | .month => "month must be in 1..12"
  | .day => "day is out of range for month"
  | .hour => "hour must be in 0..23"
  | .minute => "minute must be in 0..59"
  | .second => "second must be in 0..59"
  | .noDigits => "string index out of range"
  | .malformed | .word | .form => ""

/-- What the tags of the general kinds begin with. -/
def tagBeginning : String := "tag:yaml.org,2002:"

/-- The kind that a tag tells. -/
def Kind.ofTag (tag : String) : Kind :=
  if tag = tagBeginning ++ "null" then .null
  else if tag = tagBeginning ++ "bool" then .bool
  else if tag = tagBeginning ++ "int" then .int
  else if tag = tagBeginning ++ "float" then .float
  else if tag = tagBeginning ++ "timestamp" then .time
  else if tag = tagBeginning ++ "binary" then .bytes
  else if tag = tagBeginning ++ "str" then .text
  else if tag = tagBeginning ++ "seq" then .list
  else if tag = tagBeginning ++ "map" then .table
  else if tag = tagBeginning ++ "set" then .set
  else if tag = tagBeginning ++ "omap" then .entries
  else if tag = tagBeginning ++ "pairs" then .entries
  else if tag = tagBeginning ++ "merge" then .merge
  else if tag = tagBeginning ++ "value" then .standIn
  else .unknown

/-! ### Forms of plain texts -/

/-- A text without a sign in front. -/
def unsigned (cs : List Char) : List Char :=
  (Binary64.readSign cs).2

/-- Whether a character is a digit or an underscore. -/
def isSpacedDigit (c : Char) : Bool :=
  Numeral.isDigit c || c = '_'

/-- A digit, and digits and underscores behind it. -/
def isGroup : List Char → Bool
  | [] => false
  | c :: cs => Numeral.isDigit c && cs.all isSpacedDigit

/-- A number below sixty, in one digit or two. -/
def isSixtieth : List Char → Bool
  | [c] => Numeral.isDigit c
  | [c, d] => Numeral.isDigit c && Numeral.value c < 6 && Numeral.isDigit d
  | _ => false

/-- A group and numbers below sixty behind it, with colons between them. -/
def isSixties (cs : List Char) : Bool :=
  match split ':' cs with
  | [] => false
  | whole :: parts => isGroup whole && !parts.isEmpty && parts.all isSixtieth

/-- The form of integers. -/
def isInteger (cs : List Char) : Bool :=
  match unsigned cs with
  | '0' :: 'b' :: digits => !digits.isEmpty && digits.all fun c => c = '0' || c = '1' || c = '_'
  | '0' :: 'x' :: digits => !digits.isEmpty && digits.all fun c => (Numeral.hexValue? c).isSome || c = '_'
  | '0' :: digits => digits.all fun c => c = '_' || (isSpacedDigit c && Numeral.value c < 8)
  | cs => isGroup cs || isSixties cs

/-- Nothing, or an exponent with a sign. -/
def isExponent : List Char → Bool
  | [] => true
  | [_] => false
  | e :: sign :: digits =>
    (e = 'e' || e = 'E') && (sign = '+' || sign = '-') && !digits.isEmpty &&
      digits.all Numeral.isDigit

/-- The form of numbers with a point. -/
def isNumber (cs : List Char) : Bool :=
  match (unsigned cs).span (· != '.') with
  | (_, []) => false
  | ([], _ :: rest) =>
    let hasSign := unsigned cs != cs
    ["inf", "Inf", "INF"].contains (String.ofList rest) ||
      (!hasSign && (["nan", "NaN", "NAN"].contains (String.ofList rest) ||
        (isGroup (rest.takeWhile isSpacedDigit) && isExponent (rest.dropWhile isSpacedDigit))))
  | (whole, _ :: rest) =>
    let exponent := rest.dropWhile isSpacedDigit
    (isGroup whole && isExponent exponent) || (isSixties whole && exponent.isEmpty)

/-- The words for yes. -/
def yesWords : List String := ["yes", "true", "on"]

/-- The words for no. -/
def noWords : List String := ["no", "false", "off"]

/-- Whether a text is a word in small letters, with a capital, or in capitals. -/
def isWord (words : List String) (text : String) : Bool :=
  words.any fun word => text = word || text = word.capitalize || text = word.map Char.toUpper

/-! ### Times -/

/-- The parts of a time. -/
structure Moment where
  date : Calendar.Date
  /-- Hour, minute and second. -/
  clock : Option (Nat × Nat × Nat)

/-- One digit or two, and what is behind them. -/
def readPart? (cs : List Char) : Option (Nat × List Char) :=
  let digits := (cs.take 2).takeWhile Numeral.isDigit
  if digits.isEmpty then none else some (Numeral.read digits, cs.drop digits.length)

/-- Two digits, and what is behind them. -/
def readPair? : List Char → Option (Nat × List Char)
  | c :: d :: cs =>
    if Numeral.isDigit c && Numeral.isDigit d then some (Numeral.read [c, d], cs) else none
  | _ => none

/-- What is behind a character. -/
def behind? (c : Char) : List Char → Option (List Char)
  | [] => none
  | d :: cs => if d = c then some cs else none

/-- Nothing, or a zone: a letter, or a sign with hours and perhaps minutes. -/
def isZone (cs : List Char) : Bool :=
  match cs.dropWhile isBlankOrTab with
  | [] => cs.isEmpty
  | ['Z'] => true
  | sign :: rest =>
    (sign = '+' || sign = '-') &&
      match readPart? rest with
      | none => false
      | some (_, []) => true
      | some (_, ':' :: minutes) => readPair? minutes |>.any (·.2.isEmpty)
      | some _ => false
where
  isBlankOrTab (c : Char) : Bool := c = ' ' || c = '\t'

/-- The parts of a time in its usual form. -/
def readMoment? (cs : List Char) : Option Moment := do
  let year := cs.take 4
  if year.length < 4 || !year.all Numeral.isDigit then none
  else
    let (month, rest) ← readPart? (← behind? '-' (cs.drop 4))
    let (day, rest) ← readPart? (← behind? '-' rest)
    let date : Calendar.Date := ⟨Numeral.read year, month, day⟩
    if rest.isEmpty then some ⟨date, none⟩
    else
      let clock := match rest with
        | 'T' :: clock => clock
        | 't' :: clock => clock
        | _ => rest.dropWhile isZone.isBlankOrTab
      if clock = rest then none
      else
        let (hour, rest) ← readPart? clock
        let (minute, rest) ← readPair? (← behind? ':' rest)
        let (second, rest) ← readPair? (← behind? ':' rest)
        let rest := match rest with
          | '.' :: places => places.dropWhile Numeral.isDigit
          | _ => rest
        if isZone rest then some ⟨date, some (hour, minute, second)⟩ else none

/-- The form of times.  A day alone has all its ten characters. -/
def isTime (cs : List Char) : Bool :=
  match readMoment? cs with
  | some ⟨_, none⟩ => cs.length = 10
  | some ⟨_, some _⟩ => true
  | none => false

/-- What is wrong with the parts of a time. -/
def Moment.fault? (t : Moment) : Option Fault :=
  if t.date.year < 1 then some (.year t.date.year)
  else if t.date.month < 1 || 12 < t.date.month then some .month
  else if !t.date.isValid then some .day
  else
    match t.clock with
    | none => none
    | some (hour, minute, second) =>
      if 23 < hour then some .hour
      else if 59 < minute then some .minute
      else if 59 < second then some .second
      else none

/-! ### Kinds and values of texts -/

/-- A text without the end of its line. -/
def withoutLineEnd (cs : List Char) : List Char :=
  if cs.getLast? = some '\n' then cs.dropLast else cs

/-- The kind that a plain text has of itself. -/
def Kind.ofPlain (content : String) : Kind :=
  let cs := withoutLineEnd content.toList
  let text := String.ofList cs
  if isWord (yesWords ++ noWords) text then .bool
  else if isNumber cs then .float
  else if isInteger cs then .int
  else if text = "<<" then .merge
  else if content = "" || text = "~" || isWord ["null"] text then .null
  else if isTime cs then .time
  else if text = "=" then .standIn
  else .text

/-- The value of numbers that count sixtieths of one another. -/
def sixties (parts : List Int) : Int :=
  parts.foldl (fun n part => 60 * n + part) 0

/-- The integer that a text stands for. -/
def readInteger (content : String) : Except Fault Int :=
  let inBase (base : Nat) (cs : List Char) : Except Fault Int :=
    match if base = 10 then Digit.readInteger? (String.ofList cs) else Digit.readInBase? base cs with
    | some n => .ok n
    | none => .error (.integer (String.ofList cs) base)
  let (negative, cs) := Binary64.readSign (content.toList.filter (· != '_'))
  let size : Except Fault Int :=
    match cs with
    | [] => .error .noDigits
    | '0' :: 'b' :: digits => inBase 2 digits
    | '0' :: 'x' :: digits => inBase 16 digits
    | ['0'] => .ok 0
    | '0' :: _ => inBase 8 cs
    | _ => if cs.contains ':' then ((split ':' cs).mapM (inBase 10)).map sixties else inBase 10 cs
  size.map fun n => if negative then -n else n

/-- The sum of numbers that count sixtieths of one another, from the last one on. -/
def floatSixties (parts : List Binary64) : Binary64 :=
  (parts.reverse.foldl
    (fun (total, unit) part => (total.add (part.mul (.ofInt unit)), unit * 60))
    (Binary64.zero false, (1 : Int))).1

/-- The number that a text stands for. -/
def readNumber (content : String) : Except Fault Binary64 :=
  let single (cs : List Char) : Except Fault Binary64 :=
    match Binary64.read? cs with
    | some x => .ok x
    | none => .error (.number (String.ofList cs))
  let (negative, cs) := Binary64.readSign ((lower content).toList.filter (· != '_'))
  let size : Except Fault Binary64 :=
    if cs.isEmpty then .error .noDigits
    else if cs = ".inf".toList then .ok (.infinite false)
    else if cs = ".nan".toList then .ok .nan
    else if cs.contains ':' then ((split ':' cs).mapM single).map floatSixties
    else single cs
  size.map fun x => if negative then x.neg else x

/-- The value of a character among the 64 that bytes are written with. -/
def sextet? (c : Char) : Option Nat :=
  if c.isUpper then some (c.toNat - 65)
  else if c.isLower then some (c.toNat - 71)
  else if c.isDigit then some (c.toNat + 4)
  else if c = '+' then some 62
  else if c = '/' then some 63
  else none

/-- The bytes that characters stand for, four for three bytes; others between them do not count. -/
def readBytes? : List Nat → Nat → List Char → Option (List Nat)
  | held, _, [] => if held.isEmpty then some [] else none
  | held, padding, c :: cs =>
    if c = '=' then
      if 2 ≤ held.length && 4 ≤ held.length + padding + 1 then some []
      else readBytes? held (padding + 1) cs
    else
      match sextet? c, held with
      | none, _ => readBytes? held padding cs
      | some d, [] => readBytes? [d] 0 cs
      | some d, [a] => (readBytes? [a, d] 0 cs).map ((a * 4 + d / 16) :: ·)
      | some d, [a, b] => (readBytes? [a, b, d] 0 cs).map ((b % 16 * 16 + d / 4) :: ·)
      | some d, _ :: _ :: e :: _ => (readBytes? [] 0 cs).map ((e % 4 * 64 + d) :: ·)

/-- The value of a text of some kind; nothing if no data value is its counterpart. -/
def Kind.read (kind : Kind) (content : String) : Except Fault (Option Json) :=
  match kind with
  | .null => .ok (some .null)
  | .bool =>
    let word := content.map Char.toLower
    if yesWords.contains word then .ok (some (.bool true))
    else if noWords.contains word then .ok (some (.bool false))
    else .error .word
  | .int => (readInteger content).map fun n => some (.int n)
  | .float => (readNumber content).map fun x => some (.float x)
  | .time =>
    match readMoment? (withoutLineEnd content.toList) with
    | none => .error .form
    | some t =>
      match t.fault? with
      | some fault => .error fault
      | none => .ok none
  | .bytes =>
    if content.toList.any (127 < ·.toNat) then .error .malformed
    else
      match readBytes? [] 0 content.toList with
      | none => .error .malformed
      | some data => .ok ((Utf8.decode? data).map fun cs => .str (String.ofList cs))
  | .text => .ok (some (.str content))
  | _ => .error .malformed

end Cutover.Yaml
