/-!
# Numerals

Numbers written in digits.  Main statements: `read_write`, the decimal digits of a number read back as
the number, and `write_digits`, only digits are written.
-/

namespace Cutover.Text.Numeral

/-- The digit for a value below ten. -/
def digit (n : Nat) : Char :=
  Char.ofNat (48 + n)

/-- The value of a decimal digit. -/
def value (c : Char) : Nat :=
  c.toNat - 48

/-- Whether a character is one of the ten ASCII digits. -/
def isDigit (c : Char) : Bool :=
  48 ≤ c.toNat && c.toNat ≤ 57

/-- The decimal digits of a number, without leading zeros. -/
def write (n : Nat) : List Char :=
  if n < 10 then [digit n] else write (n / 10) ++ [digit (n % 10)]
termination_by n
decreasing_by omega

/-- The number that a row of decimal digits stands for. -/
def read (cs : List Char) : Nat :=
  cs.foldl (fun n c => 10 * n + value c) 0

/-- A number in at least `count` digits, with zeros in front. -/
def writePadded (count n : Nat) : List Char :=
  let digits := write n
  List.replicate (count - digits.length) '0' ++ digits

/-- An integer: the digits of its size, after a minus sign if it is negative. -/
def writeInt (n : Int) : List Char :=
  match n with
  | .ofNat n => write n
  | .negSucc n => '-' :: write (n + 1)

/-- `writeInt` as a string. -/
def intText (n : Int) : String :=
  String.ofList (writeInt n)

/-- `write` as a string. -/
def natText (n : Nat) : String :=
  String.ofList (write n)

theorem value_digit {n : Nat} (h : n < 10) : value (digit n) = n :=
  (by decide : ∀ n, n < 10 → value (digit n) = n) n h

theorem isDigit_digit {n : Nat} (h : n < 10) : isDigit (digit n) = true :=
  (by decide : ∀ n, n < 10 → isDigit (digit n) = true) n h

/-- The digits of a number read back as the number. -/
theorem read_write (n : Nat) : read (write n) = n := by
  rw [write]
  split
  · simp [read, value_digit (by assumption)]
  · have ih := read_write (n / 10)
    simp only [read, List.foldl_append, List.foldl_cons, List.foldl_nil] at ih ⊢
    rw [ih, value_digit (by omega)]
    omega
termination_by n
decreasing_by omega

/-- Only digits are written. -/
theorem write_digits (n : Nat) : ∀ c ∈ write n, isDigit c = true := by
  rw [write]
  split
  · simpa using isDigit_digit (by assumption)
  · intro c hc
    rcases List.mem_append.1 hc with hc | hc
    · exact write_digits (n / 10) c hc
    · rw [List.mem_singleton.1 hc]
      exact isDigit_digit (by omega)
termination_by n
decreasing_by omega

theorem write_ne_nil (n : Nat) : write n ≠ [] := by
  rw [write]; split <;> simp

/-! ### Digits in other bases -/

/-- The value of a hexadecimal digit, in either case. -/
def hexValue? (c : Char) : Option Nat :=
  let n := c.toNat
  if 48 ≤ n && n ≤ 57 then some (n - 48)
  else if 97 ≤ n && n ≤ 102 then some (n - 87)
  else if 65 ≤ n && n ≤ 70 then some (n - 55)
  else none

/-- The lower-case hexadecimal digit for a value below sixteen. -/
def hexDigit (n : Nat) : Char :=
  if n < 10 then Char.ofNat (48 + n) else Char.ofNat (87 + n)

/-- The last `count` hexadecimal digits of a number. -/
def writeHex : Nat → Nat → List Char
  | 0, _ => []
  | count + 1, n => writeHex count (n / 16) ++ [hexDigit (n % 16)]

/-- The number that a row of hexadecimal digits stands for, if each character is one. -/
def readHex? (cs : List Char) : Option Nat :=
  cs.foldlM (fun n c => (hexValue? c).map (16 * n + ·)) 0

/-- The bytes that pairs of hexadecimal digits stand for. -/
def readHexBytes? : List Char → Option (List Nat)
  | [] => some []
  | [_] => none
  | a :: b :: cs => do
    let byte ← readHex? [a, b]
    let more ← readHexBytes? cs
    some (byte :: more)

theorem hexValue?_hexDigit {n : Nat} (h : n < 16) : hexValue? (hexDigit n) = some n :=
  (by decide : ∀ n, n < 16 → hexValue? (hexDigit n) = some n) n h

end Cutover.Text.Numeral
