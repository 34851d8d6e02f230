import Cutover.Number.Binary64
import Cutover.Time.Timestamp

/-!
# Reading timestamps

Timestamps from text and from numbers.  `Timestamp.read` takes the forms of a payload: a day with a time
and perhaps a zone, a day alone, or seconds since the start of 1970.  `Timestamp.readIso?` takes the
wider set of forms of a log entry, with parts left out or without separators.
-/

namespace Cutover

/-- Why a text or a number names no day. -/
inductive DateFault where
  | tooShort
  | yearCharacter
  | separator
  | monthCharacter
  | dayCharacter
  | month
  | day
  | extra
  | tooEarly
  | tooLate
  | notNumber
  deriving DecidableEq, Repr

/-- The wording of a fault. -/
def DateFault.message : DateFault → String
  | .tooShort => "input is too short"
  | .yearCharacter => "invalid character in year"
  | .separator => "invalid date separator, expected \x60-\x60"
  | .monthCharacter => "invalid character in month"
  | .dayCharacter => "invalid character in day"
  | .month => "month value is outside expected range of 1-12"
  | .day => "day value is outside expected range"
  | .extra => "unexpected extra characters at the end of the input"
  | .tooEarly => "dates before 1600 are not supported as unix timestamps"
  | .tooLate => "dates after 9999 are not supported as unix timestamps"
  | .notNumber => "NaN values not permitted"

namespace Timestamp

open Text

/-- The number written in digits, if every character is one. -/
def digits? (cs : List Char) : Option Int :=
  if cs.all Numeral.isDigit then some (Numeral.read cs) else none

/-- Read a day of the form `yyyy-mm-dd` and what follows it. -/
def readDate (cs : List Char) : Except DateFault (Calendar.Date × List Char) :=
  if cs.length < 10 then .error .tooShort
  else
    match digits? (cs.take 4) with
    | none => .error .yearCharacter
    | some year =>
      if cs[4]? ≠ some '-' then .error .separator
      else
        match digits? ((cs.drop 5).take 2) with
        | none => .error .monthCharacter
        | some month =>
          if cs[7]? ≠ some '-' then .error .separator
          else
            match digits? ((cs.drop 8).take 2) with
            | none => .error .dayCharacter
            | some day =>
              if month < 1 || 12 < month then .error .month
              else if day < 1 || Calendar.daysInMonth year month < day then .error .day
              else .ok (⟨year, month, day⟩, cs.drop 10)

/-- Microseconds from the digits after a point, of which six count. -/
def fractionMicros (places : List Char) : Int :=
  let six := (places ++ List.replicate 6 '0').take 6
  Numeral.read six

/-- Read a number of two digits that is at most `most`. -/
def twoDigits? (most : Int) : List Char → Option (Int × List Char)
  | a :: b :: rest =>
    (digits? [a, b]).bind fun n => if n ≤ most then some (n, rest) else none
  | _ => none

/-- Read a time of day of the form `hh:mm`, `hh:mm:ss` or `hh:mm:ss.f`. -/
def readTime? (cs : List Char) : Option (Int × List Char) := do
  let (hour, rest) ← twoDigits? 23 cs
  let ':' :: rest := rest | none
  let (minute, rest) ← twoDigits? 59 rest
  let base := (hour * 60 + minute) * 60000000
  match rest with
  | ':' :: more =>
    let (second, rest) ← twoDigits? 59 more
    let base := base + second * 1000000
    match rest with
    | point :: more =>
      if point = '.' || point = ',' then
        let (places, rest) := more.span Numeral.isDigit
        if places.isEmpty then none else some (base + fractionMicros places, rest)
      else some (base, rest)
    | [] => some (base, [])
  | _ => some (base, rest)

/-- Read a zone at the end of a text: nothing, `Z`, or a distance in hours and minutes. -/
def readZone? (cs : List Char) : Option (Option Int) :=
  match cs with
  | [] => some none
  | ['Z'] => some (some 0)
  | ['z'] => some (some 0)
  | sign :: rest =>
    let factor : Option Int :=
      if sign = '+' then some 1
      else if sign = '-' || sign.toNat = 0x2212 then some (-1) else none
    do
      let factor ← factor
      let (hour, rest) ← twoDigits? 99 rest
      let rest := match rest with
        | ':' :: more => more
        | _ => rest
      let (minute, rest) ← twoDigits? 59 rest
      let minutes := hour * 60 + minute
      if rest.isEmpty && minutes < 1440 then some (some (factor * minutes * 60000000)) else none

/-- Read a day with a time and perhaps a zone. -/
def readDateTime? (cs : List Char) : Option Timestamp :=
  match readDate cs with
  | .error _ => none
  | .ok (date, separator :: rest) =>
    if separator = 'T' || separator = 't' || separator = ' ' || separator = '_' then do
      let (time, rest) ← readTime? rest
      let offset ← readZone? rest
      if date.isValid then some (ofParts date time offset) else none
    else none
  | .ok (_, []) => none

/-- The timestamp of a count of seconds since the start of 1970; a large count is of milliseconds. -/
def ofSeconds (seconds : Int) (micros : Int) : Except DateFault Timestamp :=
  let total :=
    if 20000000000 < seconds.natAbs then
      if seconds.natAbs ≤ 20000000000000 then seconds * 1000 + micros / 1000 else seconds * 1000000
    else seconds * 1000000 + micros
  if total < -11676096000000000 then .error .tooEarly
  else if 253402300799999999 < total then .error .tooLate
  else .ok (universal total)

/-- The timestamp of a floating point count of seconds. -/
def ofFloatSeconds (x : Binary64) : Except DateFault Timestamp :=
  match x with
  | .finite .. =>
    let (whole, rest) := x.split
    let micros := (rest.mul (Binary64.ofInt 1000000)).roundToInt
    if micros < 0 then ofSeconds (whole - 1) (micros + 1000000) else ofSeconds whole micros
  | .infinite true => .error .tooEarly
  | .infinite false => .error .tooLate
  | .nan => .error .notNumber

/-- A text of digits with a sign and perhaps a fraction, as a number of seconds. -/
def readSeconds? (cs : List Char) : Option (Except DateFault Timestamp) := do
  let (negative, rest) := match cs with
    | '-' :: rest => (true, rest)
    | '+' :: rest => (false, rest)
    | _ => (false, cs)
  let (whole, rest) := rest.span Numeral.isDigit
  if whole.isEmpty then none
  else
    let size : Int := Numeral.read whole
    match rest with
    | [] => some (ofSeconds (if negative then -size else size) 0)
    | '.' :: places =>
      if places.isEmpty || !places.all Numeral.isDigit then none
      else
        let digits := Numeral.read (whole ++ places)
        some (ofFloatSeconds (.ofDecimal negative digits (-(places.length : Int))))
    | _ => none

/-- The timestamp that a text of a payload stands for.  The fault named is the one found when the text
is read as a day alone. -/
def read (s : String) : Except DateFault Timestamp :=
  let cs := s.toList
  match readDateTime? cs with
  | some t => .ok t
  | none =>
    match readSeconds? cs with
    | some result => result
    | none =>
      match readDate cs with
      | .error fault => .error fault
      | .ok (date, []) => .ok (ofParts date 0 none)
      | .ok (_, _ :: _) => .error .extra

/-! ### The forms of a log entry -/

/-- Read a day with or without separators. -/
def readIsoDate? (cs : List Char) : Option (Calendar.Date × List Char) := do
  let year ← digits? (cs.take 4)
  let rest := cs.drop 4
  let (month, day, rest) ← match rest with
    | '-' :: a :: b :: '-' :: c :: d :: rest => some ([a, b], [c, d], rest)
    | a :: b :: c :: d :: rest => some ([a, b], [c, d], rest)
    | _ => none
  let month ← digits? month
  let day ← digits? day
  let date : Calendar.Date := ⟨year, month, day⟩
  if date.isValid then some (date, rest) else none

/-- Read a clock reading with parts left out from the end, with or without colons. -/
def readIsoClock? (cs : List Char) : Option Int := do
  let (hour, rest) ← twoDigits? 23 cs
  if rest.isEmpty then some (hour * 3600000000)
  else
    let colons := rest.head? = some ':'
    let next (cs : List Char) : Option (List Char) :=
      if colons then (match cs with | ':' :: more => some more | _ => none) else some cs
    let (minute, rest) ← twoDigits? 59 (← next rest)
    let base := (hour * 60 + minute) * 60000000
    if rest.isEmpty then some base
    else
      let (second, rest) ← twoDigits? 59 (← next rest)
      let base := base + second * 1000000
      match rest with
      | [] => some base
      | point :: places =>
        if (point = '.' || point = ',') && !places.isEmpty && places.all Numeral.isDigit then
          some (base + fractionMicros places)
        else none

/-- Read a time with perhaps a zone. -/
def readIsoTime? (cs : List Char) : Option (Int × Option Int) :=
  let isSign (c : Char) : Bool := c = '+' || c = '-' || c = 'Z'
  let (clock, zone) := cs.span (fun c => !isSign c)
  do
    let time ← readIsoClock? clock
    match zone with
    | [] => some (time, none)
    | ['Z'] => some (time, some 0)
    | sign :: rest =>
      if sign = 'Z' then none
      else
        let size ← readIsoClock? rest
        some (time, some (if sign = '-' then -size else size))

/-- The timestamp that a text of a log entry stands for. -/
def readIso? (s : String) : Option Timestamp := do
  let (date, rest) ← readIsoDate? s.toList
  match rest with
  | [] => some (ofParts date 0 none)
  | _ :: rest =>
    let (time, offset) ← readIsoTime? rest
    some (ofParts date time offset)

end Timestamp

end Cutover
