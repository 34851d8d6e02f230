/-!
# Characters in bytes

The form of characters in one to four bytes.  A text is read only if every character is in its shortest
form and none of them is half of a pair.  Main statement: `Utf8.decode?_ascii`, bytes below 128 are
characters of their own.
-/

namespace Cutover.Text.Utf8

/-- The bits that a byte adds to a character begun by another one. -/
def continuation? (byte : Nat) : Option Nat :=
  if 0x80 ≤ byte && byte < 0xC0 then some (byte - 0x80) else none

/-- Whether a number belongs to a character: it is not half of a pair and not too large. -/
def isScalar (n : Nat) : Bool :=
  n < 0xD800 || (0xDFFF < n && n < 0x110000)

/-- A character with a number that is at least `least`. -/
def character? (least n : Nat) : Option Char :=
  if least ≤ n && isScalar n then some (Char.ofNat n) else none

/-- The characters of bytes, if the bytes are a text. -/
def decode? : List Nat → Option (List Char)
  | [] => some []
  | a :: rest =>
    if a < 0x80 then do
      let c ← character? 0 a
      let more ← decode? rest
      some (c :: more)
    else if 0xC0 ≤ a && a < 0xE0 then
      match rest with
      | b :: rest => do
        let b ← continuation? b
        let c ← character? 0x80 ((a - 0xC0) * 0x40 + b)
        let more ← decode? rest
        some (c :: more)
      | _ => none
    else if 0xE0 ≤ a && a < 0xF0 then
      match rest with
      | b :: c :: rest => do
        let b ← continuation? b
        let c ← continuation? c
        let d ← character? 0x800 ((a - 0xE0) * 0x1000 + b * 0x40 + c)
        let more ← decode? rest
        some (d :: more)
      | _ => none
    else if 0xF0 ≤ a && a < 0xF8 then
      match rest with
      | b :: c :: d :: rest => do
        let b ← continuation? b
        let c ← continuation? c
        let d ← continuation? d
        let e ← character? 0x10000 ((a - 0xF0) * 0x40000 + b * 0x1000 + c * 0x40 + d)
        let more ← decode? rest
        some (e :: more)
      | _ => none
    else none

/-- Bytes below 128 are characters of their own. -/
theorem decode?_ascii (bytes : List Nat) (h : ∀ b ∈ bytes, b < 0x80) :
    decode? bytes = some (bytes.map Char.ofNat) := by
  induction bytes with
  | nil => simp [decode?]
  | cons a rest ih =>
    have ha : a < 0x80 := h a (by simp)
    have hs : isScalar a = true := by
      have : a < 0xD800 := by omega
      simp [isScalar, this]
    have hr := ih fun b hb => h b (by simp [hb])
    unfold decode?
    simp [character?, ha, hs, hr]

end Cutover.Text.Utf8
