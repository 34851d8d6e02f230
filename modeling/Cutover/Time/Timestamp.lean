import Cutover.Text.Numeral
import Cutover.Time.Calendar

/-!
# Timestamps

A reading of a calendar and clock to the microsecond, with the distance of its zone from universal time
if the zone is known, and the two forms in which it is written: one that gives the distance of every
known zone in hours and minutes, and one that writes universal time as `Z`.
-/

namespace Cutover

/-- A calendar and clock reading. -/
structure Timestamp where
  /-- Microseconds of the reading since the start of 1970, in its own zone. -/
  micros : Int
  /-- Microseconds by which the zone is ahead of universal time, if it is known. -/
  offset : Option Int
  deriving DecidableEq, Repr, Inhabited

namespace Timestamp

open Text

/-- The microseconds of a day. -/
def dayMicros : Int := 86400000000

/-- The reading of universal time a number of microseconds after the start of 1970. -/
def universal (micros : Int) : Timestamp := ⟨micros, some 0⟩

/-- A reading made of its parts. -/
def ofParts (date : Calendar.Date) (timeOfDay : Int) (offset : Option Int) : Timestamp :=
  ⟨Calendar.dayNumber date * dayMicros + timeOfDay, offset⟩

/-- The day of a reading. -/
def date (t : Timestamp) : Calendar.Date :=
  Calendar.ofDayNumber (t.micros / dayMicros)

/-- The microseconds since midnight. -/
def timeOfDay (t : Timestamp) : Int :=
  t.micros % dayMicros

/-- A part of a reading in at least `count` digits. -/
def part (count : Nat) (n : Int) : List Char :=
  Numeral.writePadded count n.natAbs

/-- A fraction of a second: nothing if it is zero, otherwise six digits after a point. -/
def fractionText (micros : Int) : List Char :=
  if micros = 0 then [] else '.' :: part 6 micros

/-- The year, month, day, hour, minute, second and fraction of a reading. -/
def localText (t : Timestamp) : List Char :=
  let date := t.date
  let time := t.timeOfDay
  let seconds := time / 1000000
  part 4 date.year ++ '-' :: part 2 date.month ++ '-' :: part 2 date.day ++
    'T' :: part 2 (seconds / 3600) ++ ':' :: part 2 (seconds / 60 % 60) ++
    ':' :: part 2 (seconds % 60) ++ fractionText (time % 1000000)

/-- The distance of a zone from universal time: hours and minutes, and seconds if there are any. -/
def offsetText (offset : Int) : List Char :=
  let size : Int := offset.natAbs
  let seconds := size / 1000000
  let sign := if offset < 0 then '-' else '+'
  let below :=
    if size % 60000000 = 0 then []
    else ':' :: part 2 (seconds % 60) ++ fractionText (size % 1000000)
  sign :: part 2 (seconds / 3600) ++ ':' :: part 2 (seconds / 60 % 60) ++ below

/-- The form in which every known zone is written by its distance. -/
def isoText (t : Timestamp) : String :=
  String.ofList <| t.localText ++
    match t.offset with
    | none => []
    | some offset => offsetText offset

/-- The form in which universal time is written as `Z`. -/
def wireText (t : Timestamp) : String :=
  String.ofList <| t.localText ++
    match t.offset with
    | none => []
    | some 0 => ['Z']
    | some offset => offsetText offset

end Timestamp

end Cutover
