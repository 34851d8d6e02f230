import Cutover.Proofs.JsonText
import Cutover.Proofs.ShortestDecimal

/-!
# Floating point numbers are read back

The text of a value stands for the value, also where it holds floating point numbers: main statements
`Json.readsBack_float` and `Json.IsSound.read?_text`.

The shortest digits of a number are written in one of four forms.  Each is a decimal in parts, digits before
and behind a point and an exponent (`Decimal.text_ofDigits`), of the value of the digits
(`Decimal.shows_ofDigits`).  The reader takes a text apart into the same parts, one after the other
(`readMagnitude_eq`, `Decimal.IsValid.readMagnitude_text`), and the decimal rounds to the number.
-/

namespace Cutover

/-! ### Places and exponents are read -/

namespace Json

open Text

variable {rest whole places : List Char} {exponent : ℤ}

/-- Digits behind a point are read up to what is no digit. -/
theorem readPlaces_cons (hne : places ≠ []) (hplaces : ∀ c ∈ places, Numeral.isDigit c = true)
    (hrest : ∀ c ∈ rest.head?, Numeral.isDigit c = false) :
    readPlaces ('.' :: (places ++ rest)) = (places, rest) := by
  rw [readPlaces, Numeral.span_digits hplaces hrest]
  exact if_neg (by rwa [List.isEmpty_iff])

/-- An exponent with a sign is read. -/
theorem readPower_writePadded (exponent : ℤ) (hrest : Ends rest) :
    readPower ('e' :: (if exponent < 0 then '-' else '+') ::
      (Numeral.writePadded 2 exponent.natAbs ++ rest)) = (some exponent, rest) := by
  have hdigits := Numeral.writePadded_digits 2 exponent.natAbs
  have hspan := Numeral.span_digits hdigits fun c hc => (hrest c hc).1
  have hne : (Numeral.writePadded 2 exponent.natAbs).isEmpty = false := by
    rw [Numeral.writePadded, List.isEmpty_eq_false_iff]
    exact List.append_ne_nil_of_right_ne_nil _ (Numeral.write_ne_nil _)
  have hread := Numeral.read_writePadded 2 exponent.natAbs
  split
  next hneg =>
    have hsize : -1 * (exponent.natAbs : ℤ) = exponent := by omega
    simp only [readPower, hspan, hne, hread, hsize]
    rfl
  next hpos =>
    have hsize : 1 * (exponent.natAbs : ℤ) = exponent := by omega
    simp only [readPower, hspan, hne, hread, hsize]
    rfl

end Json

/-! ### Decimals in parts -/

/-- The parts of the text of a number: its digits before the point, the digits behind it, if there is a point,
and the exponent, if there is one. -/
structure Decimal where
  whole : List Char
  places : List Char := []
  exponent : Option ℤ := none

namespace Decimal

open Text Binary64 Json

variable {decimal : Decimal} {rest : List Char}

/-- The point and the digits behind it. -/
def placesText (decimal : Decimal) : List Char :=
  match decimal.places with
  | [] => []
  | place :: places => '.' :: place :: places

/-- The exponent with its letter, its sign and no less than two digits. -/
def powerText (decimal : Decimal) : List Char :=
  match decimal.exponent with
  | none => []
  | some exponent =>
    'e' :: (if exponent < 0 then '-' else '+') :: Numeral.writePadded 2 exponent.natAbs

/-- The text of a decimal. -/
def text (decimal : Decimal) : List Char :=
  decimal.whole ++ (decimal.placesText ++ decimal.powerText)

/-- The power of ten by which the digits of a decimal count. -/
def scale (decimal : Decimal) : ℤ :=
  decimal.exponent.getD 0 - decimal.places.length

/-- The number that the digits of a decimal stand for without its point. -/
def digits (decimal : Decimal) : ℕ :=
  Numeral.read (decimal.whole ++ decimal.places)

/-- A decimal with digits only, no zero in front of others, and a point or an exponent. -/
structure IsValid (decimal : Decimal) : Prop where
  whole : ∀ c ∈ decimal.whole, Numeral.isDigit c = true
  places : ∀ c ∈ decimal.places, Numeral.isDigit c = true
  lead : decimal.whole = ['0'] ∨ ∃ c cs, decimal.whole = c :: cs ∧ c ≠ '0'
  broken : decimal.places ≠ [] ∨ decimal.exponent ≠ none

theorem readPower_powerText (decimal : Decimal) (hrest : Ends rest) :
    readPower (decimal.powerText ++ rest) = (decimal.exponent, rest) := by
  rw [powerText]
  split
  next hnone => rw [hnone, List.nil_append, readPower_of_ends hrest]
  next exponent hexponent =>
    rw [hexponent, List.cons_append, List.cons_append, readPower_writePadded exponent hrest]

theorem readPlaces_placesText (hplaces : ∀ c ∈ decimal.places, Numeral.isDigit c = true)
    (hrest : ∀ c ∈ rest.head?, Numeral.isDigit c = false ∧ c ≠ '.') :
    readPlaces (decimal.placesText ++ rest) = (decimal.places, rest) := by
  rw [placesText]
  split
  next hnone => rw [hnone, List.nil_append, readPlaces_of_ne fun c hc => (hrest c hc).2]
  next place places hsome =>
    rw [hsome] at hplaces ⊢
    exact readPlaces_cons (List.cons_ne_nil place places) hplaces fun c hc => (hrest c hc).1

/-- Neither an exponent nor what can follow a value goes on with the digits before it. -/
theorem head_powerText (decimal : Decimal) (hrest : Ends rest) :
    ∀ c ∈ (decimal.powerText ++ rest).head?, Numeral.isDigit c = false ∧ c ≠ '.' := by
  rw [powerText]
  split
  · exact fun c hc => ⟨(hrest c hc).1, (hrest c hc).2.1⟩
  · rintro c ⟨⟩
    decide

theorem head_placesText (decimal : Decimal) (hrest : ∀ c ∈ rest.head?, Numeral.isDigit c = false) :
    ∀ c ∈ (decimal.placesText ++ rest).head?, Numeral.isDigit c = false := by
  rw [placesText]
  split
  · exact hrest
  · rintro c ⟨⟩
    decide

/-- The text of a decimal is read as the number nearest to it. -/
theorem IsValid.readMagnitude_text (h : decimal.IsValid) (negative : Bool) (hrest : Ends rest) :
    readMagnitude negative (decimal.text ++ rest) =
      some (.float (.ofDecimal negative decimal.digits decimal.scale), rest) := by
  have hpower := decimal.head_powerText hrest
  have hplaces := decimal.head_placesText fun c hc => (hpower c hc).1
  have hfloat : (decimal.places.isEmpty && decimal.exponent.isNone) = false := by
    rw [Bool.and_eq_false_iff, List.isEmpty_eq_false_iff, Option.isNone_eq_false_iff,
      ← Option.ne_none_iff_isSome]
    exact h.broken
  rw [text, List.append_assoc, List.append_assoc, readMagnitude_eq negative h.whole h.lead hplaces,
    readPlaces_placesText h.places hpower, ofParts]
  simp only [readPower_powerText decimal hrest, hfloat]
  rfl

/-! ### The forms in which digits are written -/

variable {ds : List Char} {point : ℤ}

/-- A decimal that shows digits with a point at some place: valid, of the same value, and with no more than a
few zeros beside the digits. -/
structure Shows (decimal : Decimal) (ds : List Char) (point : ℤ) : Prop where
  valid : decimal.IsValid
  value : (decimal.digits : ℚ) * 10 ^ decimal.scale = Numeral.read ds * 10 ^ (point - ds.length)
  short : decimal.digits < 10 ^ (ds.length + 20)

/-- The digits of a decimal that has as many more are bounded. -/
theorem IsValid.digits_lt (h : decimal.IsValid) {length : ℕ}
    (hlength : decimal.whole.length + decimal.places.length ≤ length) : decimal.digits < 10 ^ length := by
  have hdigits : ∀ c ∈ decimal.whole ++ decimal.places, Numeral.isDigit c = true :=
    List.forall_mem_append.mpr ⟨h.whole, h.places⟩
  rw [← List.length_append] at hlength
  exact lt_of_lt_of_le (Numeral.read_lt hdigits) (Nat.pow_le_pow_right (by decide) hlength)

theorem isDigit_of_mem_replicate {count : ℕ} : ∀ c ∈ List.replicate count '0', Numeral.isDigit c = true :=
  fun _ hc => List.eq_of_mem_replicate hc ▸ rfl

/-- Digits behind a point, after zeros. -/
theorem shows_behind (hds : AreDigits ds) (hleast : -3 ≤ point) (hpoint : point ≤ 0) :
    Shows { whole := ['0'], places := List.replicate (-point).toNat '0' ++ ds } ds point := by
  have hvalid : IsValid { whole := ['0'], places := List.replicate (-point).toNat '0' ++ ds } := by
    refine ⟨fun c hc => List.mem_singleton.mp hc ▸ rfl,
      List.forall_mem_append.mpr ⟨isDigit_of_mem_replicate, hds.digits⟩, .inl rfl, .inl ?_⟩
    obtain ⟨c, cs, rfl, -⟩ := hds.first
    exact List.append_ne_nil_of_right_ne_nil _ (List.cons_ne_nil c cs)
  refine ⟨hvalid, ?_, hvalid.digits_lt ?_⟩
  · have hdigits : Numeral.read (['0'] ++ (List.replicate (-point).toNat '0' ++ ds)) = Numeral.read ds := by
      rw [← Numeral.read_replicate (-point).toNat ds]
      exact Numeral.read_replicate 1 _
    have hscale : (0 : ℤ) - (List.replicate (-point).toNat '0' ++ ds).length = point - ds.length := by
      rw [List.length_append, List.length_replicate]
      omega
    rw [digits, scale, hdigits, Option.getD_none, hscale]
  · rw [List.length_append, List.length_replicate, List.length_singleton]
    omega

/-- Digits before a point, with zeros up to it. -/
theorem shows_before (hds : AreDigits ds) (hpoint : ds.length ≤ point.toNat) (hgreatest : point ≤ 16) :
    Shows { whole := ds ++ List.replicate (point.toNat - ds.length) '0', places := ['0'] } ds point := by
  obtain ⟨zeros, hzeros⟩ := Nat.exists_eq_add_of_le hpoint
  obtain ⟨c, cs, hcs, hc⟩ := hds.first
  have hpos := hds.length_pos
  rw [hzeros, Nat.add_sub_cancel_left]
  have hvalid : IsValid { whole := ds ++ List.replicate zeros '0', places := ['0'] } :=
    ⟨List.forall_mem_append.mpr ⟨hds.digits, isDigit_of_mem_replicate⟩,
      fun c hc => List.mem_singleton.mp hc ▸ rfl, .inr ⟨c, _, by rw [hcs, List.cons_append], hc⟩,
      .inl (List.cons_ne_nil _ _)⟩
  refine ⟨hvalid, ?_, hvalid.digits_lt ?_⟩
  · have hdigits :
        Numeral.read (ds ++ List.replicate zeros '0' ++ ['0']) = Numeral.read ds * 10 ^ (zeros + 1) := by
      rw [List.append_assoc, ← List.replicate_succ', Numeral.read_append_replicate]
    have hpow : (10 : ℚ) ^ (zeros + 1) * 10 ^ (-1 : ℤ) = 10 ^ (point - ds.length) :=
      ten_pow_mul_zpow (by omega)
    rw [digits, scale, hdigits, Option.getD_none, ← hpow]
    push_cast
    exact mul_assoc _ _ _
  · rw [List.length_append, List.length_replicate, List.length_singleton]
    omega

/-- Digits around a point, or with an exponent. -/
theorem shows_taken (hds : AreDigits ds) {count : ℕ} (hcount : 0 < count) {exponent : Option ℤ}
    (hbroken : count < ds.length ∨ exponent ≠ none)
    (hscale : exponent.getD 0 - (ds.length - count : ℕ) = point - ds.length) :
    Shows { whole := ds.take count, places := ds.drop count, exponent } ds point := by
  have hvalid : IsValid { whole := ds.take count, places := ds.drop count, exponent } := by
    refine ⟨fun c hc => hds.digits c (List.mem_of_mem_take hc),
      fun c hc => hds.digits c (List.mem_of_mem_drop hc), .inr ?_, ?_⟩
    · obtain ⟨c, cs, rfl, hc⟩ := hds.first
      exact ⟨c, cs.take (count - 1), List.take_cons hcount, hc⟩
    · exact hbroken.imp_left fun hless hnil => absurd (List.drop_eq_nil_iff.mp hnil) (not_le.mpr hless)
  refine ⟨hvalid, ?_, hvalid.digits_lt ?_⟩
  · rw [digits, scale, List.take_append_drop, List.length_drop, hscale]
  · rw [List.length_take, List.length_drop]
    omega

/-- The forms in which digits are written. -/
def ofDigits (ds : List Char) (point : ℤ) : Decimal :=
  if Form.plain.least ≤ point && point ≤ Form.plain.greatest then
    if point ≤ 0 then { whole := ['0'], places := List.replicate (-point).toNat '0' ++ ds }
    else if ds.length ≤ point.toNat then
      { whole := ds ++ List.replicate (point.toNat - ds.length) '0', places := ['0'] }
    else { whole := ds.take point.toNat, places := ds.drop point.toNat }
  else { whole := ds.take 1, places := ds.drop 1, exponent := some (point - 1) }

theorem shows_ofDigits (hds : AreDigits ds) (point : ℤ) : Shows (ofDigits ds point) ds point := by
  have hplain_iff :
      (Form.plain.least ≤ point && point ≤ Form.plain.greatest) = true ↔ -3 ≤ point ∧ point ≤ 16 := by
    rw [Bool.and_eq_true, decide_eq_true_eq, decide_eq_true_eq]
    exact Iff.rfl
  rw [ofDigits]
  split_ifs with hplain hbehind hbefore
  · exact shows_behind hds (hplain_iff.mp hplain).1 hbehind
  · exact shows_before hds hbefore (hplain_iff.mp hplain).2
  · exact shows_taken hds (by omega) (.inl (by omega)) (by rw [Option.getD_none]; omega)
  · have hpos := hds.length_pos
    exact shows_taken hds Nat.one_pos (.inr (Option.some_ne_none _)) (by rw [Option.getD_some]; omega)

theorem text_of_places (hplaces : decimal.places ≠ []) (hexponent : decimal.exponent = none) :
    decimal.text = decimal.whole ++ '.' :: decimal.places := by
  rw [text, placesText, powerText, hexponent, List.append_nil]
  split
  next hnil => exact absurd hnil hplaces
  next hcons => rw [hcons]

/-- Digits are written in one of the forms. -/
theorem text_ofDigits (hds : AreDigits ds) (point : ℤ) :
    (ofDigits ds point).text = Form.plain.write ds point := by
  obtain ⟨c, cs, rfl, -⟩ := hds.first
  unfold Form.write ofDigits
  dsimp only
  by_cases hplain : (Form.plain.least ≤ point && point ≤ Form.plain.greatest) = true
  · rw [if_pos hplain, if_pos hplain]
    split_ifs with hbehind hbefore
    · rw [text_of_places (List.append_ne_nil_of_right_ne_nil _ (List.cons_ne_nil c cs)) rfl]
      rfl
    · rfl
    · rw [text_of_places (by simpa using hbefore) rfl]
  · rw [if_neg hplain, if_neg hplain]
    cases cs <;> rfl

end Decimal

/-! ### Floating point numbers -/

namespace Binary64

open Text

/-- A floating point number in the one form in which it is stored. -/
inductive IsStored : Binary64 → Prop
  | zero (negative : Bool) : IsStored (zero negative)
  | finite (negative : Bool) {m : ℕ} {e : ℤ} (h : IsNormal m e) : IsStored (.finite negative m e)
  | infinite (negative : Bool) : IsStored (.infinite negative)
  | nan : IsStored .nan

end Binary64

namespace Json

open Text Binary64

variable {value : Json} {rest : List Char}

/-- The sign in front of a number. -/
theorem readNumber_sign (negative : Bool) {c : Char} (hc : Numeral.isDigit c = true) (cs : List Char) :
    readNumber ((if negative then ['-'] else []) ++ c :: cs) = readMagnitude negative (c :: cs) := by
  cases negative
  · exact readNumber_of_isDigit hc cs
  · exact readNumber_minus hc cs

/-- A finite number is read back if its text without the sign begins with a digit and is read as the number. -/
theorem readsBack_finite {x : Binary64} {negative : Bool} {c : Char} {cs : List Char}
    (hwrite : write (.float x) = (if negative then ['-'] else []) ++ c :: cs) (hc : Numeral.isDigit c = true)
    (hread : ∀ rest, Ends rest → readMagnitude negative (c :: cs ++ rest) = some (.float x, rest)) :
    ReadsBack (.float x) := by
  apply readsBack_of_beginsInt
  · cases negative
    · exact ⟨c, cs, hwrite, by rw [beginsInt, hc, Bool.true_or]⟩
    · exact ⟨'-', c :: cs, hwrite, rfl⟩
  · intro rest hrest
    rw [hwrite, List.append_assoc, List.cons_append, readNumber_sign negative hc]
    exact hread rest hrest

theorem readsBack_normal (negative : Bool) {m : ℕ} {e : ℤ} (h : IsNormal m e) :
    ReadsBack (.float (.finite negative m e)) := by
  obtain ⟨hdigits, hlength, hrounds⟩ := digits_spec h
  obtain ⟨hvalid, hvalue, hshort⟩ := Decimal.shows_ofDigits hdigits (digits m e).2
  have htext := Decimal.text_ofDigits hdigits (digits m e).2
  generalize Decimal.ofDigits (digits m e).1 (digits m e).2 = decimal at hvalid hvalue hshort htext
  -- whichever form it is, the decimal rounds to the number as its digits do
  have hread : ∀ rest, Ends rest →
      readMagnitude negative (decimal.text ++ rest) = some (.float (.finite negative m e), rest) := by
    intro rest hrest
    rw [← hvalue] at hrounds
    have hbound : decimal.digits < 10 ^ 40 :=
      lt_of_lt_of_le hshort (Nat.pow_le_pow_right (by decide) (by omega))
    rw [hvalid.readMagnitude_text negative hrest, hrounds.ofDecimal_eq h hbound]
  have hwrite : write (.float (.finite negative m e)) = (if negative then ['-'] else []) ++ decimal.text := by
    rw [htext, write, writeLeaf, Binary64.write, if_neg h.pos.ne']
  obtain ⟨c, cs, hcs, hc⟩ : ∃ c cs, decimal.text = c :: cs ∧ Numeral.isDigit c = true := by
    have hwhole := hvalid.whole
    rw [Decimal.text]
    obtain hzero | ⟨c, cs, hcs, -⟩ := hvalid.lead
    · exact ⟨'0', _, by rw [hzero]; rfl, rfl⟩
    · exact ⟨c, _, by rw [hcs]; rfl, hwhole c (hcs ▸ List.mem_cons_self)⟩
  rw [hcs] at hread hwrite
  exact readsBack_finite hwrite hc hread

/-- A floating point number is read back. -/
theorem readsBack_float {x : Binary64} (h : x.IsStored) : ReadsBack (.float x) := by
  cases h with
  | zero negative =>
    have hwrite : write (.float (Binary64.zero negative)) =
        (if negative then ['-'] else []) ++ ['0', '.', '0'] := by cases negative <;> rfl
    have hvalid : Decimal.IsValid { whole := ['0'], places := ['0'] } :=
      ⟨fun c hc => List.mem_singleton.mp hc ▸ rfl, fun c hc => List.mem_singleton.mp hc ▸ rfl, .inl rfl,
        .inl (List.cons_ne_nil _ _)⟩
    exact readsBack_finite hwrite rfl fun rest hrest => hvalid.readMagnitude_text negative hrest
  | finite negative h => exact readsBack_normal negative h
  | infinite negative => cases negative <;> exact ⟨⟨_, _, rfl, rfl, by decide⟩, fun _ _ _ _ => rfl⟩
  | nan => exact ⟨⟨_, _, rfl, rfl, by decide⟩, fun _ _ _ _ => rfl⟩

/-- A value whose floating point numbers are stored in their one form, and in which no object has two members
of one name. -/
inductive IsSound : Json → Prop
  | null : IsSound .null
  | bool (b : Bool) : IsSound (.bool b)
  | int (n : Int) : IsSound (.int n)
  | float {x : Binary64} (h : x.IsStored) : IsSound (.float x)
  | str (s : String) : IsSound (.str s)
  | arr {items : List Json} (hitems : ∀ item ∈ items, IsSound item) : IsSound (.arr items)
  | obj {members : Fields} (hnames : (members.map (·.1)).Nodup)
      (hmembers : ∀ member ∈ members, IsSound member.2) : IsSound (.obj members)

theorem IsSound.readsBack (h : value.IsSound) : ReadsBack value := by
  induction h with
  | null => exact readsBack_null
  | bool b => exact readsBack_bool b
  | int n => exact readsBack_int n
  | float h => exact readsBack_float h
  | str s => exact readsBack_str s
  | arr _ ih => exact readsBack_arr ih
  | obj hnames _ ih => exact readsBack_obj hnames ih

/-- The text of a sound value stands for the value. -/
theorem IsSound.read?_text (h : value.IsSound) : read? value.text = some value :=
  h.readsBack.read?_text

end Json
end Cutover
