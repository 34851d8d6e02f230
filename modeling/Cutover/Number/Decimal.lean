import Cutover.Number.Shortest

/-!
# Decimals of a given length

A number written with a given count of digits: behind the point, in scientific form, or in whichever of
the two is shorter.  The last digit is rounded, an exact half to the even neighbour.
-/

namespace Cutover.Binary64

open Text

/-- A decimal form with a given count of digits. -/
inductive Notation where
  /-- Digits behind the point. -/
  | positional
  /-- One digit before the point, and an exponent. -/
  | scientific
  /-- Significant digits, without zeros at the end, in the shorter form. -/
  | general
  deriving DecidableEq, Repr

/-- A whole number of `count + 1` digits for the fraction `n / d` and the exponent of its first digit. -/
def scientificDigits (n d count : Nat) : Nat × Int :=
  if n = 0 then (0, 0)
  else
    let point := decimalPoint n d
    let scale : Int := (count : Int) + 1 - point
    let rounded :=
      if 0 ≤ scale then roundDiv (n * Nat.pow 10 scale.toNat) d
      else roundDiv n (d * Nat.pow 10 (-scale).toNat)
    if rounded = Nat.pow 10 (count + 1) then (Nat.pow 10 count, point) else (rounded, point - 1)

/-- A point and the digits behind it; the point stands alone only if it is asked for. -/
def withPlaces (whole places : List Char) (keepPoint : Bool) : List Char :=
  if places.isEmpty && !keepPoint then whole else whole ++ '.' :: places

/-- The text of a fraction with `count` digits behind the point. -/
def writePositional (n d count : Nat) (keepPoint : Bool) : List Char :=
  let ds := Numeral.writePadded (count + 1) (roundDiv (n * Nat.pow 10 count) d)
  withPlaces (ds.take (ds.length - count)) (ds.drop (ds.length - count)) keepPoint

/-- An exponent with a sign and at least two digits. -/
def writeExponent (exponent : Int) : List Char :=
  'e' :: (if exponent < 0 then '-' else '+') :: Numeral.writePadded 2 exponent.natAbs

/-- The text of a fraction in scientific form with `count` digits behind the point. -/
def writeScientific (n d count : Nat) (keepPoint : Bool) : List Char :=
  let (digits, exponent) := scientificDigits n d count
  let ds := Numeral.writePadded (count + 1) digits
  withPlaces (ds.take 1) (ds.drop 1) keepPoint ++ writeExponent exponent

/-- The text of a fraction with `count` significant digits: positional from a ten thousandth up to the
last of the digits.  Zeros at the end are kept only if the point is. -/
def writeGeneral (n d count : Nat) (keepPoint : Bool) : List Char :=
  let count := max count 1
  let (digits, exponent) := scientificDigits n d (count - 1)
  let ds := Numeral.writePadded count digits
  let shorten (places : List Char) : List Char :=
    if keepPoint then places else dropEndWhile (· == '0') places
  if -4 ≤ exponent && exponent < count then
    if 0 ≤ exponent then
      let whole := exponent.toNat + 1
      withPlaces (ds.take whole) (shorten (ds.drop whole)) keepPoint
    else
      withPlaces ['0'] (shorten (List.replicate (-exponent - 1).toNat '0' ++ ds)) keepPoint
  else withPlaces (ds.take 1) (shorten (ds.drop 1)) keepPoint ++ writeExponent exponent

/-- The text of a number with `count` digits. -/
def writeDecimal (form : Notation) (count : Nat) (keepPoint : Bool) : Binary64 → List Char
  | .nan => "nan".toList
  | .infinite negative => (if negative then ['-'] else []) ++ "inf".toList
  | .finite negative m e =>
    let (n, d) := fraction m e
    (if negative then ['-'] else []) ++
      match form with
      | .positional => writePositional n d count keepPoint
      | .scientific => writeScientific n d count keepPoint
      | .general => writeGeneral n d count keepPoint

end Cutover.Binary64
