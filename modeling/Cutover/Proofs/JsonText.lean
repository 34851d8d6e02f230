import Cutover.Json.Printer
import Cutover.Json.Reader
import Cutover.Proofs.NumeralText
import Mathlib.Tactic.SplitIfs

/-!
# Values are read back from their texts

The text of a value stands for the value, if the value holds no floating point numbers and no object in it
has two members of one name: main statement `Json.read?_text`.

Every part is read in front of whatever can follow it in a text, so that the parts can be put together: the
characters of a text one by one (`readUnits_escape`, `joinUnits_units`), the digits of a number, its places
and its exponent one after the other (`readMagnitude_eq`, `readNumber_writeInt`), the items of a list and the
members of an object by induction (`readItems_writeItems`, `readMembers_writeMembers`).
-/

namespace Cutover

namespace Json

open Text

/-! ### Characters as code units -/

/-- The code units of a character: one, or two for a character beyond the first plane. -/
def units (c : Char) : List Nat :=
  if c.toNat < 0x10000 then [c.toNat]
  else [0xD800 + (c.toNat - 0x10000) / 0x400, 0xDC00 + (c.toNat - 0x10000) % 0x400]

theorem readUnits_writeUnit {n : Nat} (h : n < 0x10000) (rest : List Char) :
    readUnits (writeUnit n ++ rest) = (readUnits rest).map fun read => (n :: read.1, read.2) := by
  have hhex : Numeral.readHex? (Numeral.writeHex 4 n) = some n := Numeral.readHex?_writeHex h
  simp only [Numeral.writeHex, List.nil_append, List.cons_append] at hhex
  simp only [writeUnit, Numeral.writeHex, List.nil_append, List.cons_append, readUnits, hhex]
  cases readUnits rest <;> rfl

/-- The letters that stand for a code unit behind a backslash. -/
theorem readUnits_letter {letter : Char} {n : Nat} (rest : List Char)
    (h : (letter, n) ∈ [('"', 34), ('\\', 92), ('n', 10), ('r', 13), ('t', 9), ('b', 8), ('f', 12)]) :
    readUnits ('\\' :: letter :: rest) =
      (readUnits rest).map fun read => (n :: read.1, read.2) := by
  simp only [List.mem_cons, Prod.mk.injEq, List.not_mem_nil, or_false] at h
  rcases h with ⟨rfl, rfl⟩ | ⟨rfl, rfl⟩ | ⟨rfl, rfl⟩ | ⟨rfl, rfl⟩ | ⟨rfl, rfl⟩ | ⟨rfl, rfl⟩ | ⟨rfl, rfl⟩
  all_goals simp only [readUnits]; cases readUnits rest <;> rfl

theorem toNat_cases (c : Char) :
    c.toNat < 0xD800 ∨ 0xDFFF < c.toNat ∧ c.toNat < 0x110000 :=
  c.valid

theorem units_of_lt {c : Char} (h : c.toNat < 0x10000) : units c = [c.toNat] :=
  if_pos h

/-- An escaped character is read as its code units. -/
theorem readUnits_escape (c : Char) (rest : List Char) :
    readUnits (escape c ++ rest) = (readUnits rest).map fun read => (units c ++ read.1, read.2) := by
  rw [escape]
  split_ifs with hquote hslash hn hr ht hb hf hplain hunit
  · subst hquote; exact readUnits_letter rest (by decide)
  · subst hslash; exact readUnits_letter rest (by decide)
  · subst hn; exact readUnits_letter rest (by decide)
  · subst hr; exact readUnits_letter rest (by decide)
  · subst ht; exact readUnits_letter rest (by decide)
  · rw [units_of_lt (by omega), hb]; exact readUnits_letter rest (by decide)
  · rw [units_of_lt (by omega), hf]; exact readUnits_letter rest (by decide)
  · rw [Bool.and_eq_true, decide_eq_true_eq, decide_eq_true_eq] at hplain
    rw [units_of_lt (by omega), List.singleton_append, readUnits]
    · rw [if_neg (by simp [hslash, hplain.1])]
      cases readUnits rest <;> rfl
    · exact fun h => hquote h
    · exact fun _ _ _ _ _ h => absurd h hslash
    · exact fun _ _ h => absurd h hslash
  · rw [units_of_lt hunit]
    exact readUnits_writeUnit hunit rest
  · have hvalid := toNat_cases c
    rw [List.append_assoc, readUnits_writeUnit (by omega), readUnits_writeUnit (by omega), units,
      if_neg hunit, Option.map_map]
    rfl

theorem readUnits_flatMap_escape (cs rest : List Char) :
    readUnits (cs.flatMap escape ++ '"' :: rest) = some (cs.flatMap units, rest) := by
  induction cs with
  | nil => rfl
  | cons c cs ih =>
    rw [List.flatMap_cons, List.append_assoc, readUnits_escape, ih, List.flatMap_cons]
    rfl

/-! ### Characters from code units -/

theorem character_toNat (c : Char) : character c.toNat = c := by
  have hvalid : c.toNat.isValidChar := c.valid
  rw [character, if_pos hvalid, Char.ofNat_toNat]

/-- A unit that is not a high one stands for a character of its own. -/
theorem joinUnits_cons {n : Nat} (h : n < 0xD800 ∨ 0xDC00 ≤ n) (units : List Nat) :
    joinUnits (n :: units) = character n :: joinUnits units := by
  cases units with
  | nil => rfl
  | cons low units =>
    rw [joinUnits, if_neg]
    simp only [Bool.and_eq_true, decide_eq_true_eq]
    omega

/-- The code units of a character stand for the character. -/
theorem joinUnits_units (c : Char) (rest : List Nat) :
    joinUnits (units c ++ rest) = c :: joinUnits rest := by
  have hvalid := toNat_cases c
  by_cases hplane : c.toNat < 0x10000
  · rw [units_of_lt hplane, List.singleton_append, joinUnits_cons (by omega), character_toNat]
  · rw [units, if_neg hplane, List.cons_append, List.singleton_append, joinUnits, if_pos]
    · have hsame : 0x10000 + (0xD800 + (c.toNat - 0x10000) / 0x400 - 0xD800) * 0x400 +
          (0xDC00 + (c.toNat - 0x10000) % 0x400 - 0xDC00) = c.toNat := by omega
      rw [hsame, character_toNat]
    · simp only [Bool.and_eq_true, decide_eq_true_eq]
      omega

theorem joinUnits_flatMap_units (cs : List Char) : joinUnits (cs.flatMap units) = cs := by
  induction cs with
  | nil => rfl
  | cons c cs ih => rw [List.flatMap_cons, joinUnits_units, ih]

/-- A text is read back. -/
theorem readText_escape (s : String) (rest : List Char) :
    readText (s.toList.flatMap escape ++ '"' :: rest) = some (s, rest) := by
  simp only [readText, readUnits_flatMap_escape, Option.map_some, joinUnits_flatMap_units,
    String.ofList_toList]

/-! ### The parts of a number -/

/-- What can follow a value: nothing that would go on with a number. -/
def Ends (rest : List Char) : Prop :=
  ∀ c ∈ rest.head?, Numeral.isDigit c = false ∧ c ≠ '.' ∧ c ≠ 'e' ∧ c ≠ 'E'

/-- Read the digits behind a point, if there are any. -/
def readPlaces (cs : List Char) : List Char × List Char :=
  match cs with
  | '.' :: after =>
    let (places, others) := after.span Numeral.isDigit
    if places.isEmpty then ([], cs) else (places, others)
  | _ => ([], cs)

/-- Read an exponent, if there is one. -/
def readPower (cs : List Char) : Option Int × List Char :=
  match cs with
  | e :: after =>
    if e = 'e' || e = 'E' then
      let (sign, digitsAndRest) : Int × List Char :=
        match after with
        | '-' :: more => (-1, more)
        | '+' :: more => (1, more)
        | _ => (1, after)
      let (digits, others) := digitsAndRest.span Numeral.isDigit
      if digits.isEmpty then (none, cs) else (some (sign * Numeral.read digits), others)
    else (none, cs)
  | [] => (none, [])

/-- The number that was read in parts, and what follows it. -/
def ofParts (negative : Bool) (whole : List Char) (places : List Char × List Char) :
    Option (Json × List Char) :=
  let (exponent, rest) := readPower places.2
  if places.1.isEmpty && exponent.isNone then
    let n : Int := Numeral.read whole
    some (.int (if negative then -n else n), rest)
  else
    some (.float (.ofDecimal negative (Numeral.read (whole ++ places.1)) (exponent.getD 0 - places.1.length)),
      rest)

/-- The parts of a number are read one after the other. -/
theorem readMagnitude_eq (negative : Bool) {whole rest : List Char}
    (hwhole : ∀ c ∈ whole, Numeral.isDigit c = true)
    (hlead : whole = ['0'] ∨ ∃ c cs, whole = c :: cs ∧ c ≠ '0')
    (hrest : ∀ c ∈ rest.head?, Numeral.isDigit c = false) :
    readMagnitude negative (whole ++ rest) = ofParts negative whole (readPlaces rest) := by
  rw [readMagnitude, Numeral.span_digits hwhole hrest]
  obtain rfl | ⟨c, cs, rfl, hc⟩ := hlead
  · rfl
  · dsimp only
    split
    next more heq => exact absurd (List.cons.inj heq).1 hc
    next => rfl

theorem readPlaces_of_ne {rest : List Char} (hrest : ∀ c ∈ rest.head?, c ≠ '.') :
    readPlaces rest = ([], rest) := by
  unfold readPlaces
  split
  next after => exact absurd rfl (hrest '.' rfl)
  next => rfl

theorem readPower_of_ends {rest : List Char} (hrest : Ends rest) : readPower rest = (none, rest) := by
  cases rest with
  | nil => rfl
  | cons c rest =>
    obtain ⟨-, -, hsmall, hlarge⟩ := hrest c rfl
    exact if_neg (by simp [hsmall, hlarge])

/-! ### Integers -/

/-- The digits of a number are read as the number, if what follows does not go on with them. -/
theorem readMagnitude_write (negative : Bool) (n : Nat) {rest : List Char} (h : Ends rest) :
    readMagnitude negative (Numeral.write n ++ rest) =
      some (.int (if negative then -n else n), rest) := by
  rw [readMagnitude_eq negative (Numeral.write_digits n) (Numeral.write_cases n) fun c hc => (h c hc).1,
    readPlaces_of_ne fun c hc => (h c hc).2.1, ofParts]
  simp only [readPower_of_ends h, Numeral.read_write]
  rfl

/-- Whether a character can begin an integer. -/
def beginsInt (c : Char) : Bool :=
  Numeral.isDigit c || c == '-'

theorem ne_of_holds {p : Char → Bool} {c other : Char} (hc : p c = true) (hother : p other = false) :
    c ≠ other := by
  rintro rfl
  cases hc.symm.trans hother

/-- What begins with a digit is read as a number without a sign. -/
theorem readNumber_of_isDigit {c : Char} (hc : Numeral.isDigit c = true) (cs : List Char) :
    readNumber (c :: cs) = readMagnitude false (c :: cs) := by
  rw [readNumber]
  · exact fun _ heq => ne_of_holds hc rfl (List.cons.inj heq).1
  · exact fun _ heq => ne_of_holds hc rfl (List.cons.inj heq).1

theorem readNumber_minus {c : Char} (hc : Numeral.isDigit c = true) (cs : List Char) :
    readNumber ('-' :: c :: cs) = readMagnitude true (c :: cs) := by
  rw [readNumber]
  exact fun _ heq => ne_of_holds hc rfl (List.cons.inj heq).1

/-- An integer is read back. -/
theorem readNumber_writeInt (n : Int) {rest : List Char} (h : Ends rest) :
    readNumber (Numeral.writeInt n ++ rest) = some (.int n, rest) := by
  cases n with
  | ofNat n =>
    have hread := readMagnitude_write false n h
    obtain ⟨c, cs, hwrite, hdigit⟩ := Numeral.exists_write_eq_cons n
    rw [Numeral.writeInt]
    rw [hwrite, List.cons_append] at hread ⊢
    rw [readNumber_of_isDigit hdigit, hread]
    rfl
  | negSucc n =>
    have hread := readMagnitude_write true (n + 1) h
    obtain ⟨c, cs, hwrite, hdigit⟩ := Numeral.exists_write_eq_cons (n + 1)
    rw [Numeral.writeInt]
    rw [hwrite, List.cons_append] at hread
    rw [hwrite, List.cons_append, List.cons_append, readNumber_minus hdigit, hread]
    rfl

theorem exists_writeInt_eq_cons (n : Int) :
    ∃ c cs, Numeral.writeInt n = c :: cs ∧ beginsInt c = true := by
  cases n with
  | ofNat n =>
    obtain ⟨c, cs, hwrite, hdigit⟩ := Numeral.exists_write_eq_cons n
    exact ⟨c, cs, hwrite, by rw [beginsInt, hdigit, Bool.true_or]⟩
  | negSucc n => exact ⟨'-', _, rfl, rfl⟩

/-! ### Values -/

/-- A value without floating point numbers in which no object has two members of one name. -/
inductive IsPlain : Json → Prop
  | null : IsPlain .null
  | bool (b : Bool) : IsPlain (.bool b)
  | int (n : Int) : IsPlain (.int n)
  | str (s : String) : IsPlain (.str s)
  | arr {items : List Json} (hitems : ∀ item ∈ items, IsPlain item) : IsPlain (.arr items)
  | obj {members : Fields} (hnames : (members.map (·.1)).Nodup)
      (hmembers : ∀ member ∈ members, IsPlain member.2) : IsPlain (.obj members)

/-- The text of a value begins with what is neither a blank nor the end of a list, and it is read as the
value in front of what can follow. -/
structure ReadsBack (value : Json) : Prop where
  begins : ∃ c cs, write value = c :: cs ∧ isGap c = false ∧ c ≠ ']'
  reads : ∀ fuel rest, Ends rest → (write value).length ≤ fuel + 1 →
    readValue (fuel + 1) (write value ++ rest) = some (value, rest)

variable {value item : Json} {items : List Json} {fuel : Nat} {rest : List Char}

theorem ends_cons {c : Char} (h : c ∈ [',', ']', '\x7d']) (rest : List Char) : Ends (c :: rest) := by
  rintro _ ⟨⟩
  simp only [List.mem_cons, List.not_mem_nil, or_false] at h
  rcases h with rfl | rfl | rfl <;> decide

theorem ReadsBack.readValue_eq (h : ReadsBack value) (hrest : Ends rest)
    (hfuel : (write value).length ≤ fuel) :
    readValue fuel (write value ++ rest) = some (value, rest) := by
  cases fuel with
  | zero =>
    obtain ⟨c, cs, hwrite, _⟩ := h.begins
    rw [hwrite] at hfuel
    cases hfuel
  | succ fuel => exact h.reads fuel rest hrest hfuel

theorem ReadsBack.skipGap_eq (h : ReadsBack value) :
    skipGap (write value ++ rest) = write value ++ rest := by
  obtain ⟨c, cs, hwrite, hgap, _⟩ := h.begins
  rw [hwrite, List.cons_append, skipGap, List.dropWhile_cons_of_neg (by simp [hgap])]

theorem readsBack_null : ReadsBack .null where
  begins := ⟨_, _, rfl, rfl, by decide⟩
  reads _ _ _ _ := rfl

theorem readsBack_bool (b : Bool) : ReadsBack (.bool b) where
  begins := by cases b <;> exact ⟨_, _, rfl, rfl, by decide⟩
  reads _ _ _ _ := by cases b <;> rfl

theorem readsBack_str (s : String) : ReadsBack (.str s) where
  begins := ⟨_, _, rfl, rfl, by decide⟩
  reads fuel rest _ _ := by
    rw [write, writeLeaf, writeText, List.cons_append, List.cons_append, readValue, List.append_assoc,
      List.singleton_append, readText_escape]
    rfl

/-- What can begin an integer begins no other value than a number. -/
theorem readValue_of_beginsInt {c : Char} (hc : beginsInt c = true) (fuel : Nat) (cs : List Char) :
    readValue (fuel + 1) (c :: cs) = readNumber (c :: cs) := by
  rw [readValue]
  all_goals exact fun _ heq => ne_of_holds hc rfl (List.cons.inj heq).1

/-- A number is read back if it is read as a number and begins as an integer can. -/
theorem readsBack_of_beginsInt (hbegins : ∃ c cs, write value = c :: cs ∧ beginsInt c = true)
    (hread : ∀ rest, Ends rest → readNumber (write value ++ rest) = some (value, rest)) : ReadsBack value where
  begins := by
    obtain ⟨c, cs, hwrite, hc⟩ := hbegins
    refine ⟨c, cs, hwrite, ?_, ne_of_holds hc rfl⟩
    simp [isGap, @ne_of_holds beginsInt c ' ' hc rfl, @ne_of_holds beginsInt c '\t' hc rfl,
      @ne_of_holds beginsInt c '\n' hc rfl, @ne_of_holds beginsInt c '\r' hc rfl]
  reads fuel rest hrest _ := by
    obtain ⟨c, cs, hwrite, hc⟩ := hbegins
    have hnumber := hread rest hrest
    rw [hwrite, List.cons_append] at hnumber ⊢
    rw [readValue_of_beginsInt hc, hnumber]

theorem readsBack_int (n : Int) : ReadsBack (.int n) := by
  apply readsBack_of_beginsInt
  · exact exists_writeInt_eq_cons n
  · exact fun rest hrest => readNumber_writeInt n hrest

/-! ### Lists and objects -/

theorem skipGap_cons {c : Char} (h : isGap c = false) (cs : List Char) : skipGap (c :: cs) = c :: cs :=
  List.dropWhile_cons_of_neg (by simp [h])

theorem skipGap_blank (cs : List Char) : skipGap (' ' :: cs) = skipGap cs :=
  List.dropWhile_cons_of_pos rfl

/-- The items of a list are read up to its end. -/
theorem readItems_writeItems (hitems : ∀ other ∈ item :: items, ReadsBack other)
    (hfuel : (write item).length + (writeItems items).length ≤ fuel) :
    readItems (fuel + 1) (write item ++ (writeItems items ++ ']' :: rest)) =
      some (item :: items, rest) := by
  induction items generalizing item fuel with
  | nil =>
    have hread : readValue fuel (write item ++ ']' :: rest) = some (item, ']' :: rest) :=
      (hitems item List.mem_cons_self).readValue_eq (ends_cons (by decide) rest) (by omega)
    rw [writeItems, List.nil_append, readItems, hread]
    simp only [skipGap_cons (c := ']') rfl]
  | cons next items ih =>
    obtain ⟨hitem, hitems⟩ := List.forall_mem_cons.mp hitems
    have htext : writeItems (next :: items) ++ ']' :: rest =
        ',' :: ' ' :: (write next ++ (writeItems items ++ ']' :: rest)) := by simp [writeItems]
    have hlength : (writeItems (next :: items)).length =
        (write next).length + (writeItems items).length + 2 := by
      simp [writeItems]
    have hread : readValue fuel (write item ++ (writeItems (next :: items) ++ ']' :: rest)) =
        some (item, writeItems (next :: items) ++ ']' :: rest) :=
      hitem.readValue_eq (htext ▸ ends_cons (by decide) _) (by omega)
    obtain ⟨less, rfl⟩ : ∃ less, fuel = less + 1 := ⟨fuel - 1, by omega⟩
    have hmore : readItems (less + 1) (write next ++ (writeItems items ++ ']' :: rest)) =
        some (next :: items, rest) := ih hitems (by omega)
    rw [readItems, hread, htext]
    simp only [skipGap_cons (c := ',') rfl, skipGap_blank,
      (hitems next List.mem_cons_self).skipGap_eq, hmore, Option.map_some]

/-- A member with a name of its own is added at the end. -/
theorem set_of_nodup {member : String × Json} {members earlier : Fields}
    (hnames : ((earlier ++ member :: members).map (·.1)).Nodup) :
    earlier.set member.1 member.2 = earlier ++ [member] := by
  refine Fields.set_eq_append (fun hmem => ?_) member.2
  rw [List.map_append, List.map_cons] at hnames
  exact (List.nodup_append.mp hnames).2.2 _ hmem _ List.mem_cons_self rfl

theorem writeText_append (s : String) (more : List Char) :
    writeText s ++ more = '"' :: (s.toList.flatMap escape ++ '"' :: more) := by
  simp [writeText]

theorem skipGap_writeText (s : String) (more : List Char) :
    skipGap (writeText s ++ more) = writeText s ++ more :=
  skipGap_cons rfl _

/-- The members of an object are read up to its end, behind those that were read before. -/
theorem readMembers_writeMembers {member : String × Json} {members earlier : Fields}
    (hmembers : ∀ other ∈ member :: members, ReadsBack other.2)
    (hnames : ((earlier ++ member :: members).map (·.1)).Nodup)
    (hfuel : (write member.2).length + (writeMembers members).length ≤ fuel) :
    readMembers (fuel + 1) earlier (writeText member.1 ++
        ':' :: ' ' :: (write member.2 ++ (writeMembers members ++ '\x7d' :: rest))) =
      some (earlier ++ member :: members, rest) := by
  induction members generalizing member earlier fuel with
  | nil =>
    have hmember := hmembers member List.mem_cons_self
    have hread : readValue fuel (write member.2 ++ '\x7d' :: rest) =
        some (member.2, '\x7d' :: rest) :=
      hmember.readValue_eq (ends_cons (by decide) rest) (by omega)
    rw [writeMembers, List.nil_append, writeText_append, readMembers]
    simp only [readText_escape, skipGap_cons (c := ':') rfl, skipGap_blank, hmember.skipGap_eq, hread,
      skipGap_cons (c := '\x7d') rfl, set_of_nodup hnames]
  | cons next members ih =>
    obtain ⟨hmember, hmembers⟩ := List.forall_mem_cons.mp hmembers
    have htext : writeMembers (next :: members) ++ '\x7d' :: rest = ',' :: ' ' :: (writeText next.1 ++
        ':' :: ' ' :: (write next.2 ++ (writeMembers members ++ '\x7d' :: rest))) := by
      simp [writeMembers]
    have hlength : (write next.2).length + (writeMembers members).length + 2 ≤
        (writeMembers (next :: members)).length := by
      simp [writeMembers]
      omega
    have hread : readValue fuel (write member.2 ++ (writeMembers (next :: members) ++ '\x7d' :: rest)) =
        some (member.2, writeMembers (next :: members) ++ '\x7d' :: rest) :=
      hmember.readValue_eq (htext ▸ ends_cons (by decide) _) (by omega)
    obtain ⟨less, rfl⟩ : ∃ less, fuel = less + 1 := ⟨fuel - 1, by omega⟩
    have hmore : readMembers (less + 1) (earlier ++ [member]) (writeText next.1 ++
          ':' :: ' ' :: (write next.2 ++ (writeMembers members ++ '\x7d' :: rest))) =
        some ((earlier ++ [member]) ++ next :: members, rest) :=
      ih hmembers (by rwa [List.append_assoc, List.singleton_append]) (by omega)
    rw [List.append_assoc, List.singleton_append] at hmore
    rw [htext] at hread ⊢
    rw [writeText_append, readMembers]
    simp only [readText_escape, skipGap_cons (c := ':') rfl, skipGap_blank, hmember.skipGap_eq, hread,
      set_of_nodup hnames, skipGap_cons (c := ',') rfl, skipGap_writeText, hmore]

theorem readsBack_arr {items : List Json} (hitems : ∀ item ∈ items, ReadsBack item) :
    ReadsBack (.arr items) where
  begins := by cases items <;> exact ⟨'[', _, by rw [write]; rfl, rfl, by decide⟩
  reads fuel rest _ hfuel := by
    cases items with
    | nil => rfl
    | cons item items =>
      have hitem := hitems item List.mem_cons_self
      have htext : write (.arr (item :: items)) ++ rest =
          '[' :: (write item ++ (writeItems items ++ ']' :: rest)) := by simp [write]
      have hlength : (write (.arr (item :: items))).length =
          (write item).length + (writeItems items).length + 2 := by
        simp [write]
        omega
      obtain ⟨less, rfl⟩ : ∃ less, fuel = less + 1 := ⟨fuel - 1, by omega⟩
      rw [htext, readValue, hitem.skipGap_eq]
      split
      next more heq =>
        -- the text of the first item does not begin with the end of the list
        obtain ⟨c, cs, hwrite, _, hc⟩ := hitem.begins
        rw [hwrite] at heq
        exact absurd (List.cons.inj heq).1 hc
      next => rw [readItems_writeItems hitems (by omega), Option.map_some]

theorem readsBack_obj {members : Fields} (hnames : (members.map (·.1)).Nodup)
    (hmembers : ∀ member ∈ members, ReadsBack member.2) : ReadsBack (.obj members) where
  begins := by cases members <;> exact ⟨'\x7b', _, by rw [write]; rfl, rfl, by decide⟩
  reads fuel rest _ hfuel := by
    cases members with
    | nil => rfl
    | cons member members =>
      have htext : write (.obj (member :: members)) ++ rest = '\x7b' :: (writeText member.1 ++
          ':' :: ' ' :: (write member.2 ++ (writeMembers members ++ '\x7d' :: rest))) := by
        simp [write]
      have hlength : (write member.2).length + (writeMembers members).length + 2 ≤
          (write (.obj (member :: members))).length := by
        simp [write]
        omega
      obtain ⟨less, rfl⟩ : ∃ less, fuel = less + 1 := ⟨fuel - 1, by omega⟩
      have hread : readMembers (less + 1) [] (writeText member.1 ++
            ':' :: ' ' :: (write member.2 ++ (writeMembers members ++ '\x7d' :: rest))) =
          some ([] ++ member :: members, rest) := readMembers_writeMembers hmembers hnames (by omega)
      rw [htext, readValue, skipGap_writeText]
      split
      next more heq => cases heq
      next => rw [hread, List.nil_append, Option.map_some]

/-- What is read back in front of what can follow it is read back alone. -/
theorem ReadsBack.read?_text (h : ReadsBack value) : read? value.text = some value := by
  have hgap : skipGap (write value) = write value := by
    have hskip : skipGap (write value ++ []) = write value ++ [] := h.skipGap_eq
    rwa [List.append_nil] at hskip
  have hread := h.reads (write value).length [] nofun (Nat.le_succ _)
  rw [List.append_nil] at hread
  simp only [read?, text, String.toList_ofList, hgap, hread]
  rfl

/-- Every plain value is read back. -/
theorem IsPlain.readsBack (h : value.IsPlain) : ReadsBack value := by
  induction h with
  | null => exact readsBack_null
  | bool b => exact readsBack_bool b
  | int n => exact readsBack_int n
  | str s => exact readsBack_str s
  | arr _ ih => exact readsBack_arr ih
  | obj hnames _ ih => exact readsBack_obj hnames ih

/-- The text of a plain value stands for the value. -/
theorem read?_text (h : value.IsPlain) : read? value.text = some value :=
  h.readsBack.read?_text

end Json
end Cutover
