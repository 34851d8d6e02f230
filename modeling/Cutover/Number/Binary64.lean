/-!
# Binary floating point with 53 bits

Floating point numbers as exact values `± m · 2 ^ e`, the infinities and the missing value.  A finite
number is stored in its normal form: `m < 2 ^ 53`, and `m` is as large as the least exponent allows.
Arithmetic is exact arithmetic on natural numbers followed by one rounding to the nearest number, an
exact half going to the even neighbour.
-/

namespace Cutover

/-- A floating point number with 53 significant bits. -/
inductive Binary64 where
  /-- The number `± significand · 2 ^ exponent`. -/
  | finite (negative : Bool) (significand : Nat) (exponent : Int)
  /-- An infinity. -/
  | infinite (negative : Bool)
  /-- The result of an operation without a value. -/
  | nan
  deriving DecidableEq, Repr, Inhabited

namespace Binary64

/-- The least exponent of a finite number. -/
def minExponent : Int := -1074

/-- The greatest exponent of a finite number. -/
def maxExponent : Int := 971

/-- Zero with a sign. -/
def zero (negative : Bool) : Binary64 := .finite negative 0 minExponent

/-- Whether the number is a zero of either sign. -/
def isZero : Binary64 → Bool
  | .finite _ m _ => m == 0
  | _ => false

/-- The quotient `n / d` rounded to an integer, an exact half to the even neighbour. -/
def roundDiv (n d : Nat) : Nat :=
  let q := n / d
  let r := n % d
  if 2 * r < d then q
  else if d < 2 * r then q + 1
  else if q % 2 = 0 then q else q + 1

/-- The fraction that `m · 2 ^ e` stands for, as numerator and denominator. -/
def fraction (m : Nat) (e : Int) : Nat × Nat :=
  if 0 ≤ e then (m * Nat.pow 2 e.toNat, 1) else (m, Nat.pow 2 (-e).toNat)

/-- The number nearest to `± n / d`, for a positive denominator. -/
def ofRatio (negative : Bool) (n d : Nat) : Binary64 :=
  if n = 0 then zero negative
  else
    let guess : Int := (Nat.log2 n : Int) - Nat.log2 d - 53
    let scaled (e : Int) : Nat × Nat :=
      if 0 ≤ e then (n, d * Nat.pow 2 e.toNat) else (n * Nat.pow 2 (-e).toNat, d)
    let tooLarge (e : Int) : Bool := Nat.pow 2 53 ≤ (scaled e).1 / (scaled e).2
    let e := max minExponent (if tooLarge guess then guess + 1 else guess)
    let m := roundDiv (scaled e).1 (scaled e).2
    let (m, e) := if m = Nat.pow 2 53 then (Nat.pow 2 52, e + 1) else (m, e)
    if maxExponent < e then .infinite negative else .finite negative m e

/-- The number nearest to `± digits · 10 ^ scale`.  Values far outside the range are settled by their
number of digits. -/
def ofDecimal (negative : Bool) (digits : Nat) (scale : Int) : Binary64 :=
  if digits = 0 then zero negative
  else
    let magnitude : Int := (Nat.log2 digits : Int) * 3 / 10 + scale
    if 400 < magnitude then .infinite negative
    else if magnitude < -400 then zero negative
    else if 0 ≤ scale then ofRatio negative (digits * Nat.pow 10 scale.toNat) 1
    else ofRatio negative digits (Nat.pow 10 (-scale).toNat)

/-- The number nearest to an integer. -/
def ofInt (n : Int) : Binary64 :=
  ofRatio (n < 0) n.natAbs 1

/-- The product of two numbers. -/
def mul : Binary64 → Binary64 → Binary64
  | .nan, _ => .nan
  | _, .nan => .nan
  | .infinite s, .infinite t => .infinite (s != t)
  | .infinite s, .finite t m _ => if m = 0 then .nan else .infinite (s != t)
  | .finite s m _, .infinite t => if m = 0 then .nan else .infinite (s != t)
  | .finite s m e, .finite t k f =>
    let (n, d) := fraction (m * k) (e + f)
    ofRatio (s != t) n d

/-- The value of a finite number with its sign, as a numerator over `2 ^ 1074`. -/
def scaledInt (negative : Bool) (m : Nat) (e : Int) : Int :=
  let size : Int := (m * Nat.pow 2 (e + 1074).toNat : Nat)
  if negative then -size else size

/-- The sum of two numbers. -/
def add : Binary64 → Binary64 → Binary64
  | .nan, _ => .nan
  | _, .nan => .nan
  | .infinite s, .infinite t => if s = t then .infinite s else .nan
  | .infinite s, .finite .. => .infinite s
  | .finite .., .infinite t => .infinite t
  | .finite s m e, .finite t k f =>
    let total := scaledInt s m e + scaledInt t k f
    if total = 0 then zero (s && t) else ofRatio (total < 0) total.natAbs (Nat.pow 2 1074)

/-- The opposite number. -/
def neg : Binary64 → Binary64
  | .nan => .nan
  | .infinite s => .infinite !s
  | .finite s m e => .finite (!s) m e

/-- The number as an integer, if it is whole. -/
def toInt? : Binary64 → Option Int
  | .finite s m e =>
    let (n, d) := fraction m e
    if n % d = 0 then some (if s then -(n / d : Nat) else (n / d : Nat)) else none
  | _ => none

/-- The whole part of a finite number, cut towards zero, and the rest with the same sign. -/
def split (x : Binary64) : Int × Binary64 :=
  match x with
  | .finite s m e =>
    let (n, d) := fraction m e
    let whole : Nat := n / d
    (if s then -(whole : Int) else whole, ofRatio s (n % d) d)
  | _ => (0, x)

/-- A finite number rounded to an integer, an exact half to the even neighbour. -/
def roundToInt (x : Binary64) : Int :=
  match x with
  | .finite s m e =>
    let (n, d) := fraction m e
    if s then -(roundDiv n d : Int) else roundDiv n d
  | _ => 0

end Binary64

end Cutover
