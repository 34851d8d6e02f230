import Cutover.Number.Binary64
import Cutover.Text.Blank
import Cutover.Text.Numeral

/-!
# Shortest decimals

The fewest decimal digits that still round to a given number, and the text made of them.  For each
count of digits the two neighbours of the number on the grid of decimals with that many digits are
tried in exact arithmetic; the first count with a hit is taken, and of two hits the nearer one.
-/

namespace Cutover.Binary64

/-- The numbers between which every real rounds to `m · 2 ^ e`, in quarters of `2 ^ e`. -/
def roundingRange (m : Nat) (e : Int) : Nat × Nat :=
  (if m = Nat.pow 2 52 && minExponent < e then 4 * m - 1 else 4 * m - 2, 4 * m + 2)

/-- The number of digits before the point of `n / d`: the least `p` with `n / d < 10 ^ p`. -/
def decimalPoint (n d : Nat) : Int :=
  if d ≤ n then ((Text.Numeral.write (n / d)).length : Int)
  else
    let up := (Text.Numeral.write (d / n)).length
    if n * Nat.pow 10 up < d * 10 then 1 - (up : Int) else 2 - (up : Int)

/-- The decimal with `count` digits after the point at place `point` that rounds to the number and
lies nearest to it, as the number of its digits, if there is one.  The number is `4 · m` over the unit `2 ^ e / 4`. -/
def decimalOfLength? (m : Nat) (e : Int) (point : Int) (count : Nat) : Option Nat :=
  let (low, high) := roundingRange m e
  let scale : Int := count - point
  let unit : Nat × Nat := fraction 1 (e - 2)
  let toGrid (quarters : Nat) : Nat :=
    if 0 ≤ scale then quarters * unit.1 * Nat.pow 10 scale.toNat else quarters * unit.1
  let step : Nat := if 0 ≤ scale then unit.2 else unit.2 * Nat.pow 10 (-scale).toNat
  let exact := toGrid (4 * m)
  let inside (k : Nat) : Bool :=
    if m % 2 = 0 then toGrid low ≤ k * step && k * step ≤ toGrid high
    else toGrid low < k * step && k * step < toGrid high
  let below := exact / step
  let above := below + 1
  let nearer := if 2 * (exact - below * step) ≤ step then below else above
  if inside below && inside above then some nearer
  else if inside below then some below
  else if inside above then some above
  else none

/-- The digits of the decimal `n · 10 ^ (point - count)` without zeros at the end, and the place of its
point, which a carry into a new digit has moved. -/
def significant (n : Nat) (point : Int) (count : Nat) : List Char × Int :=
  let ds := Text.Numeral.write n
  (Text.dropEndWhile (· == '0') ds, point + (ds.length - count : Int))

/-- The digits of the shortest decimal for a positive number and the place of the point, counted from
before the first of them.  Seventeen digits always suffice. -/
def digits (m : Nat) (e : Int) : List Char × Int :=
  let (n, d) := fraction m e
  let point := decimalPoint n d
  ((List.range 17).findSome? fun i =>
    (decimalOfLength? m e point (i + 1)).map (significant · point (i + 1))).getD (['0'], 1)

/-- How a number is written: up to which places of the point in positional form. -/
structure Form where
  /-- The least place of the point that is written with zeros behind the point. -/
  least : Int
  /-- The greatest place of the point that is written without an exponent. -/
  greatest : Int
  /-- The least count of digits in an exponent. -/
  exponentDigits : Nat

/-- Positional form from a ten thousandth up to below `10 ^ 16`, and exponents of two digits. -/
def Form.plain : Form := ⟨-3, 16, 2⟩

/-- The text of the digits `ds` with the point at place `point`. -/
def Form.write (form : Form) (ds : List Char) (point : Int) : List Char :=
  if form.least ≤ point && point ≤ form.greatest then
    if point ≤ 0 then
      '0' :: '.' :: List.replicate (-point).toNat '0' ++ ds
    else
      let whole := point.toNat
      if ds.length ≤ whole then
        ds ++ List.replicate (whole - ds.length) '0' ++ ['.', '0']
      else ds.take whole ++ '.' :: ds.drop whole
  else
    let exponent := point - 1
    let sign := if exponent < 0 then '-' else '+'
    let mantissa :=
      match ds with
      | first :: second :: rest => first :: '.' :: second :: rest
      | _ => ds
    mantissa ++ 'e' :: sign :: Text.Numeral.writePadded form.exponentDigits exponent.natAbs

/-- The texts of the numbers without digits. -/
structure Names where
  infinity : String
  missing : String

/-- The text of a number: the shortest digits that round to it, in plain form. -/
def write (names : Names) : Binary64 → List Char
  | .nan => names.missing.toList
  | .infinite s => (if s then ['-'] else []) ++ names.infinity.toList
  | .finite s m e =>
    let sign := if s then ['-'] else []
    if m = 0 then sign ++ ['0', '.', '0']
    else
      let (ds, point) := digits m e
      sign ++ Form.plain.write ds point

end Cutover.Binary64
