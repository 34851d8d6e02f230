import Cutover.Proofs.ScopeText

/-!
# The grammar of patterns

A pattern of the grammar (`Pattern.IsSpelled`) has a database name made of letters, digits, underscores
and hyphens, and a collection name that is the wildcard or may also hold dollar signs after its beginning.
It is written as the two names with a point between them, and blanks around that do not count.  What is
read is all this and nothing else but for one line break that is let through at the end of a database name
(`Pattern.IsReadable`).  Main statements: `Pattern.read_iff_spelled`, which texts are read as which pattern
and how the others are refused, and `Pattern.parse_and_text_inverse`, reading and writing undo each other.

Both rest on `Pattern.parse_eq_ok_iff`: since no name holds a point (`Pattern.IsReadable.split_text`) and no
name ends where a blank could be taken off (`Pattern.IsReadable.trim_text`), the two names are found again.
-/

namespace Cutover

/-! ### What is trimmed -/

namespace Text

variable {p : Char → Bool} {cs before after : List Char}

/-- What is dropped by trimming may be there or not. -/
theorem trimWhile_padded (hbefore : ∀ c ∈ before, p c = true) (hafter : ∀ c ∈ after, p c = true)
    (cs : List Char) : trimWhile p (before ++ cs ++ after) = trimWhile p cs := by
  have hend (front : List Char) : dropEndWhile p (front ++ after) = dropEndWhile p front := by
    rw [dropEndWhile, dropEndWhile, List.reverse_append,
      List.dropWhile_append_of_pos fun c hc => hafter c (List.mem_reverse.mp hc)]
  rw [List.append_assoc, trimWhile, trimWhile, List.dropWhile_append_of_pos hbefore,
    List.dropWhile_append]
  split_ifs with hnone
  · -- nothing is left but what stands behind
    have hblank : after.dropWhile p = [] := List.dropWhile_eq_nil_iff.mpr hafter
    rw [hblank, List.isEmpty_iff.mp hnone]
  · exact hend _

/-- A text whose first and last character are kept loses nothing to trimming. -/
theorem trimWhile_eq_self (hfirst : ∀ c ∈ cs.head?, p c = false) (hlast : ∀ c ∈ cs.getLast?, p c = false) :
    trimWhile p cs = cs := by
  have hfront : cs.dropWhile p = cs := by
    rw [List.dropWhile_eq_self_iff]
    intro hpos
    have hmem : cs[0] ∈ cs.head? := by rw [List.head?_eq_getElem?, List.getElem?_eq_getElem hpos]; rfl
    simp [hfirst _ hmem]
  have hback : cs.rdropWhile p = cs := by
    rw [List.rdropWhile_eq_self_iff]
    intro hne
    simp [hlast _ (List.getLast?_eq_getLast_of_ne_nil hne)]
  rw [trimWhile, hfront]
  exact hback

end Text

namespace Pattern

open Text

/-! ### The grammar -/

/-- The characters of names: the letters and digits of ASCII, underscore and hyphen. -/
def IsTokenChar (c : Char) : Prop :=
  ('A' ≤ c ∧ c ≤ 'Z') ∨ ('a' ≤ c ∧ c ≤ 'z') ∨ ('0' ≤ c ∧ c ≤ '9') ∨ c = '_' ∨ c = '-'

instance (c : Char) : Decidable (IsTokenChar c) :=
  inferInstanceAs (Decidable (_ ∨ _))

/-- The name of a database. -/
@[mk_iff]
structure IsDatabaseToken (name : String) : Prop where
  ne_empty : name ≠ ""
  chars : ∀ c ∈ name.toList, IsTokenChar c

/-- The name of one collection.  A dollar sign may stand in it, but not at its beginning. -/
@[mk_iff]
structure IsLiteralToken (name : String) : Prop where
  ne_empty : name ≠ ""
  chars : ∀ c ∈ name.toList, IsTokenChar c ∨ c = '$'
  head_ne : name.toList.head? ≠ some '$'

/-- What stands for the collections: a name or the wildcard. -/
def IsCollectionToken (name : String) : Prop :=
  name = "*" ∨ IsLiteralToken name

/-- A pattern whose names are those of the grammar. -/
@[mk_iff]
structure IsSpelled (p : Pattern) : Prop where
  database : IsDatabaseToken p.database
  collection : IsCollectionToken p.collection

/-- A pattern that is read from its text: one line break may end the name of its database. -/
structure IsReadable (p : Pattern) : Prop where
  database : IsDatabaseToken p.database ∨ ∃ name, IsDatabaseToken name ∧ p.database = name ++ "\n"
  collection : IsCollectionToken p.collection

-- the characters of the name are gone through, not all there are
instance (name : String) : Decidable (IsDatabaseToken name) :=
  letI : Decidable (∀ c ∈ name.toList, IsTokenChar c) := List.decidableBAll _ _
  decidable_of_iff' _ (isDatabaseToken_iff name)

instance (name : String) : Decidable (IsLiteralToken name) :=
  letI : Decidable (∀ c ∈ name.toList, IsTokenChar c ∨ c = '$') := List.decidableBAll _ _
  decidable_of_iff' _ (isLiteralToken_iff name)

instance (name : String) : Decidable (IsCollectionToken name) :=
  inferInstanceAs (Decidable (_ ∨ _))

instance (p : Pattern) : Decidable p.IsSpelled :=
  decidable_of_iff' _ (isSpelled_iff p)

variable {s name : String} {p : Pattern} {c : Char}

theorem IsSpelled.isReadable (h : p.IsSpelled) : p.IsReadable :=
  ⟨Or.inl h.database, h.collection⟩

/-- The characters that are let through in names are those of names. -/
theorem isNameChar_iff : isNameChar c = true ↔ IsTokenChar c := by
  have hupper : c.isUpper = true ↔ 'A' ≤ c ∧ c ≤ 'Z' := decide_eq_true_iff
  have hlower : c.isLower = true ↔ 'a' ≤ c ∧ c ≤ 'z' := by
    change (decide ('a' ≤ c) && decide (c ≤ 'z')) = true ↔ _
    simp
  have hdigit : c.isDigit = true ↔ '0' ≤ c ∧ c ≤ '9' := by
    change (decide ('0' ≤ c) && decide (c ≤ '9')) = true ↔ _
    simp
  change (c.isUpper || c.isLower || c.isDigit || decide (c = '_') || decide (c = '-')) = true ↔ _
  simp only [Bool.or_eq_true, decide_eq_true_eq, hupper, hlower, hdigit, IsTokenChar, or_assoc]

theorem IsTokenChar.toNat_mem (h : IsTokenChar c) : 45 ≤ c.toNat ∧ c.toNat ≤ 122 := by
  rcases h with h | h | h | rfl | rfl
  · change 65 ≤ c.toNat ∧ c.toNat ≤ 90 at h
    omega
  · change 97 ≤ c.toNat ∧ c.toNat ≤ 122 at h
    omega
  · change 48 ≤ c.toNat ∧ c.toNat ≤ 57 at h
    omega
  · decide
  · decide

/-- No character of a name is a blank. -/
theorem IsTokenChar.isBlank_eq_false (h : IsTokenChar c) : isBlank c = false := by
  have hrange := h.toNat_mem
  rw [← Bool.not_eq_true]
  intro hblank
  simp only [isBlank, isWhiteSpace, Bool.or_eq_true, Bool.and_eq_true, decide_eq_true_eq,
    beq_iff_eq] at hblank
  omega

/-! ### The names that are let through -/

/-- A text has a line break at its end, which is dropped, or it stays as it is. -/
theorem dropLineEnd_cases (cs : List Char) :
    (∃ rest, cs = rest ++ ['\n'] ∧ dropLineEnd cs = rest) ∨
      dropLineEnd cs = cs ∧ ∀ rest, cs ≠ rest ++ ['\n'] := by
  unfold dropLineEnd
  split
  · next rest hrest =>
    refine Or.inl ⟨rest.reverse, ?_, rfl⟩
    rw [← List.reverse_cons, ← hrest, List.reverse_reverse]
  · next hother =>
    refine Or.inr ⟨rfl, fun rest hrest => hother rest.reverse ?_⟩
    rw [hrest, List.reverse_concat]

theorem isDatabaseToken_ofList {cs : List Char} :
    IsDatabaseToken (String.ofList cs) ↔ cs ≠ [] ∧ ∀ c ∈ cs, isNameChar c = true := by
  rw [isDatabaseToken_iff]
  simp [isNameChar_iff]

/-- A database name is let through if it is one of the grammar when a line break at its end is dropped. -/
theorem isDatabaseName_iff : isDatabaseName name.toList = true ↔
    IsDatabaseToken name ∨ ∃ front, IsDatabaseToken front ∧ name = front ++ "\n" := by
  have hdropped : isDatabaseName name.toList = true ↔
      IsDatabaseToken (String.ofList (dropLineEnd name.toList)) := by
    rw [isDatabaseToken_ofList, isDatabaseName, Bool.and_eq_true, List.all_eq_true]
    simp
  have hbreak (front : String) : name = front ++ "\n" ↔ name.toList = front.toList ++ ['\n'] := by
    rw [← String.toList_inj, String.toList_append]
    rfl
  rw [hdropped]
  rcases dropLineEnd_cases name.toList with ⟨rest, hrest, hdrop⟩ | ⟨hdrop, hother⟩
  · -- the name ends with a line break: what is judged is the rest, and no token ends so
    rw [hdrop]
    constructor
    · intro h
      exact Or.inr ⟨_, h, by rw [hbreak, String.toList_ofList, hrest]⟩
    · rintro (h | ⟨front, h, hname⟩)
      · have hmem : '\n' ∈ name.toList := by rw [hrest]; simp
        exact absurd (h.chars _ hmem) (by decide)
      · rw [hbreak, hrest] at hname
        rwa [List.append_cancel_right hname, String.ofList_toList]
  · -- the name is judged as it is, and there is nothing that a line break could follow
    rw [hdrop, String.ofList_toList]
    constructor
    · exact Or.inl
    · rintro (h | ⟨front, _, hname⟩)
      · exact h
      · exact absurd ((hbreak front).mp hname) (hother _)

/-- A collection name is let through if it is one of the grammar. -/
theorem isCollectionName_iff : isCollectionName name.toList = true ↔ IsLiteralToken name := by
  have hparts : IsLiteralToken name ↔
      name.toList ≠ [] ∧ (∀ c ∈ name.toList, isNameChar c = true ∨ c = '$') ∧
        name.toList.head? ≠ some '$' := by
    rw [isLiteralToken_iff]
    simp [isNameChar_iff]
  rw [hparts]
  cases name.toList with
  | nil => simp [isCollectionName]
  | cons first rest =>
    have hdollar : isNameChar '$' = false := rfl
    by_cases hfirst : first = '$'
    · simp [isCollectionName, hfirst, hdollar]
    · simp [isCollectionName, hfirst]

/-- What stands for the collections is let through if it is the wildcard or a name. -/
theorem isCollectionToken_iff : IsCollectionToken name ↔
    name.toList = ['*'] ∨ isCollectionName name.toList = true := by
  have hwildcard : name = "*" ↔ name.toList = ['*'] := by
    rw [← String.toList_inj]
    rfl
  rw [IsCollectionToken, hwildcard, isCollectionName_iff]

theorem IsReadable.database_ne_empty (h : p.IsReadable) : p.database ≠ "" := by
  rcases h.database with h | ⟨name, h, hname⟩
  · exact h.ne_empty
  · simp [hname]

theorem IsCollectionToken.ne_empty (h : IsCollectionToken name) : name ≠ "" := by
  rcases h with rfl | h
  · decide
  · exact h.ne_empty

/-- Two names that are let through are those of a database and of a collection. -/
theorem names_of_ofNames {database collection : List Char} (h : ofNames database collection = .ok p) :
    isDatabaseName database = true ∧ (collection = ['*'] ∨ isCollectionName collection = true) := by
  unfold ofNames at h
  split_ifs at h with _ _ hdatabase hcollection
  refine ⟨by simpa using hdatabase, ?_⟩
  rw [or_iff_not_imp_left]
  simpa using hcollection

/-- Two names are let through if they are those of a pattern that is read. -/
theorem ofNames_eq_ok_iff : ofNames p.database.toList p.collection.toList = .ok p ↔ p.IsReadable := by
  constructor
  · intro h
    obtain ⟨hdatabase, hcollection⟩ := names_of_ofNames h
    exact ⟨isDatabaseName_iff.mp hdatabase, isCollectionToken_iff.mpr hcollection⟩
  · intro h
    have hdatabase : isDatabaseName p.database.toList = true := isDatabaseName_iff.mpr h.database
    have hcollection := isCollectionToken_iff.mp h.collection
    rw [ofNames, if_neg (by simpa using h.database_ne_empty), if_neg (by simpa using h.collection.ne_empty),
      if_neg (by simp [hdatabase]), if_neg]
    · simp only [String.ofList_toList]
    · rw [Bool.and_eq_true, decide_eq_true_eq, Bool.not_eq_true']
      rintro ⟨hliteral, hrefused⟩
      simp [hrefused, hliteral] at hcollection

/-! ### A text and its two names -/

theorem toList_text_eq (p : Pattern) : p.text.toList = p.database.toList ++ '.' :: p.collection.toList := by
  simp [text]

/-- What a name of a database that is read holds. -/
theorem IsReadable.of_mem_database (h : p.IsReadable) (hc : c ∈ p.database.toList) :
    IsTokenChar c ∨ c = '\n' := by
  rcases h.database with h | ⟨name, h, hname⟩
  · exact Or.inl (h.chars c hc)
  · rw [hname, String.toList_append, List.mem_append] at hc
    exact hc.imp (h.chars c) List.mem_singleton.mp

/-- What stands for the collections holds name characters, dollar signs or the wildcard. -/
theorem IsCollectionToken.of_mem (h : IsCollectionToken name) (hc : c ∈ name.toList) :
    IsTokenChar c ∨ c = '$' ∨ c = '*' := by
  rcases h with rfl | h
  · exact Or.inr (Or.inr (List.mem_singleton.mp hc))
  · exact (h.chars c hc).imp_right Or.inl

theorem IsReadable.point_not_mem (h : p.IsReadable) :
    '.' ∉ p.database.toList ∧ '.' ∉ p.collection.toList := by
  constructor
  · intro hc
    exact absurd (h.of_mem_database hc) (by decide)
  · intro hc
    exact absurd (h.collection.of_mem hc) (by decide)

/-- The text of a pattern that is read is split into its two names. -/
theorem IsReadable.split_text (h : p.IsReadable) :
    split '.' p.text.toList = [p.database.toList, p.collection.toList] := by
  rw [toList_text_eq, split_append_cons h.point_not_mem.1, split_of_not_mem h.point_not_mem.2]

/-- A text that is read holds one point. -/
theorem IsReadable.count_point (h : p.IsReadable) : p.text.toList.count '.' = 1 := by
  rw [toList_text_eq, List.count_append, List.count_cons_self,
    List.count_eq_zero_of_not_mem h.point_not_mem.1, List.count_eq_zero_of_not_mem h.point_not_mem.2]

theorem IsCollectionToken.isBlank_eq_false (h : IsCollectionToken name) (hc : c ∈ name.toList) :
    isBlank c = false := by
  rcases h.of_mem hc with hc | rfl | rfl
  · exact hc.isBlank_eq_false
  · rfl
  · rfl

/-- The name of a database that is read begins with a character of names. -/
theorem IsReadable.head_database (h : p.IsReadable) (hc : c ∈ p.database.toList.head?) : IsTokenChar c := by
  rcases h.database with h | ⟨name, h, hname⟩
  · exact h.chars c (List.mem_of_mem_head? hc)
  · have hne : name.toList ≠ [] := by simpa using h.ne_empty
    rw [hname, String.toList_append, List.head?_append_of_ne_nil _ hne] at hc
    exact h.chars c (List.mem_of_mem_head? hc)

/-- The text of a pattern that is read loses nothing to trimming. -/
theorem IsReadable.trim_text (h : p.IsReadable) : trim p.text.toList = p.text.toList := by
  have hdatabase : p.database.toList ≠ [] := by simpa using h.database_ne_empty
  have hcollection : p.collection.toList ≠ [] := by simpa using h.collection.ne_empty
  rw [toList_text_eq]
  apply trimWhile_eq_self
  · intro c hc
    rw [List.head?_append_of_ne_nil _ hdatabase] at hc
    exact (h.head_database hc).isBlank_eq_false
  · intro c hc
    rw [List.getLast?_append_cons, List.getLast?_cons_of_ne_nil hcollection] at hc
    exact h.collection.isBlank_eq_false (List.mem_of_mem_getLast? hc)

/-! ### What is read -/

/-- A text is read as a pattern if it is the text of this pattern, without the blanks around it. -/
theorem parse_eq_ok_iff : parse s = .ok p ↔ p.IsReadable ∧ trimText s = p.text := by
  constructor
  · intro h
    refine ⟨?_, (text_eq_trimText h).symm⟩
    unfold parse at h
    dsimp only at h
    split at h
    · cases h
    split at h
    · next database collection hsplit =>
      have hp : p = ⟨String.ofList database, String.ofList collection⟩ := ofNames_eq_ok h
      rw [← ofNames_eq_ok_iff, hp, String.toList_ofList, String.toList_ofList, ← hp]
      exact h
    · cases h
  · -- the names hold no point, so the text falls into just these two
    rintro ⟨hreadable, htext⟩
    have htrim : trim s.toList = p.text.toList := by
      rw [← htext, trimText, String.toList_ofList]
    have hne : p.text.toList.isEmpty = false := by
      rw [toList_text_eq]
      simp
    rw [parse, htrim, hne, hreadable.split_text]
    exact ofNames_eq_ok_iff.mpr hreadable

/-- A pattern of the grammar is a pattern that is read and whose text holds no blank. -/
theorem isSpelled_iff_isReadable : p.IsSpelled ↔ p.IsReadable ∧ ∀ c ∈ p.text.toList, isBlank c = false := by
  constructor
  · intro h
    refine ⟨h.isReadable, fun c hc => ?_⟩
    rw [toList_text_eq, List.mem_append, List.mem_cons] at hc
    rcases hc with hc | rfl | hc
    · exact (h.database.chars c hc).isBlank_eq_false
    · rfl
    · exact h.collection.isBlank_eq_false hc
  · rintro ⟨h, hblank⟩
    -- the line break that is let through is a blank
    refine ⟨h.database.resolve_right ?_, h.collection⟩
    rintro ⟨name, _, hname⟩
    have hbreak : '\n' ∈ p.text.toList := by rw [toList_text_eq, hname]; simp
    exact absurd (hblank _ hbreak) (by decide)

end Pattern

/-! ### How an entry is refused -/

namespace PatternFault

open Text

theorem message_ne_empty (fault : PatternFault) : fault.message ≠ "" := by
  cases fault with
  | separators found =>
    change _ ++ Numeral.natText found ≠ ""
    simp
  | badDatabase name =>
    change _ ++ name ++ _ ≠ ""
    simp
  | badCollection name =>
    change _ ++ name ++ _ ≠ ""
    simp
  | _ => decide

variable (fault : PatternFault) (entry : Json)

theorem code_failure : (fault.failure entry).code = "InvalidPatternError" := rfl

theorem details_failure : (fault.failure entry).details = [("pattern", .str entry.displayText)] := rfl

/-- The message names the entry and tells its fault. -/
theorem message_failure : (fault.failure entry).message =
    "Invalid namespace pattern '" ++ entry.displayText ++ "': " ++ fault.message := by
  have htold : (Json.str fault.message).isTruthy = true := by
    rw [Json.isTruthy, bne_iff_ne]
    exact fault.message_ne_empty
  have hquote (front : String) : front ++ "'" ++ ": " = front ++ "': " := String.append_assoc
  calc (fault.failure entry).message
      = if (Json.str fault.message).isTruthy then
          "Invalid namespace pattern '" ++ entry.displayText ++ "'" ++ ": " ++ fault.message
        else "Invalid namespace pattern '" ++ entry.displayText ++ "'" := rfl
    _ = "Invalid namespace pattern '" ++ entry.displayText ++ "'" ++ ": " ++ fault.message :=
        if_pos htold
    _ = "Invalid namespace pattern '" ++ entry.displayText ++ "': " ++ fault.message := by
        rw [hquote]

end PatternFault

namespace Filter

variable {entry : Json} {p : Pattern} {fault : PatternFault}

theorem readEntry_eq_ok_iff : readEntry entry = .ok p ↔ parseEntry entry = .ok p := by
  rw [readEntry]
  cases parseEntry entry <;> simp [Except.mapError]

/-- An entry that is no pattern is refused under the failure of its fault. -/
theorem readEntry_of_error (h : parseEntry entry = .error fault) :
    readEntry entry = .error (fault.failure entry) := by
  rw [readEntry, h]
  rfl

end Filter

namespace Pattern

open Text

/-- **Which texts are read.**  A text is read as a pattern exactly if it is, without the blanks around it,
the two names of this pattern with a point between them, where one line break may end the name of the
database; it then holds one point.  The patterns of the grammar are those that are read from texts without
a blank inside.  Any other text is refused as no pattern, under its own name and with the reason. -/
theorem read_iff_spelled (s : String) :
    (∀ p, Filter.readEntry (.str s) = .ok p ↔
      p.IsReadable ∧ trimText s = p.database ++ "." ++ p.collection) ∧
    (∀ p, Filter.readEntry (.str s) = .ok p → (trimText s).toList.count '.' = 1) ∧
    (∀ p, p.IsSpelled ∧ trimText s = p.database ++ "." ++ p.collection ↔
      Filter.readEntry (.str s) = .ok p ∧ ∀ c ∈ (trimText s).toList, isBlank c = false) ∧
    ((∀ p : Pattern, p.IsReadable → trimText s ≠ p.database ++ "." ++ p.collection) →
      ∃ failure fault, Filter.readEntry (.str s) = .error failure ∧ parse s = .error fault ∧
        failure.code = "InvalidPatternError" ∧ failure.details = [("pattern", .str s)] ∧
        failure.message = "Invalid namespace pattern '" ++ s ++ "': " ++ fault.message) := by
  have hread (p : Pattern) : Filter.readEntry (.str s) = .ok p ↔ p.IsReadable ∧ trimText s = p.text := by
    rw [Filter.readEntry_eq_ok_iff]
    exact parse_eq_ok_iff
  refine ⟨hread, fun p hp => ?_, fun p => ?_, fun hnone => ?_⟩
  · obtain ⟨hreadable, htext⟩ := (hread p).mp hp
    rw [htext]
    exact hreadable.count_point
  · rw [hread, isSpelled_iff_isReadable]
    constructor
    · rintro ⟨⟨hreadable, hblank⟩, htext⟩
      exact ⟨⟨hreadable, htext⟩, by rwa [htext]⟩
    · rintro ⟨⟨hreadable, htext⟩, hblank⟩
      exact ⟨⟨hreadable, by rwa [htext] at hblank⟩, htext⟩
  · cases hparse : parse s with
    | ok p =>
      obtain ⟨hreadable, htext⟩ := parse_eq_ok_iff.mp hparse
      exact absurd htext (hnone p hreadable)
    | error fault =>
      exact ⟨fault.failure (.str s), fault, Filter.readEntry_of_error hparse, rfl, fault.code_failure _,
        fault.details_failure _, fault.message_failure _⟩

/-- A text of the grammar with blanks around it is read, and one with two points is refused. -/
theorem read_iff_spelled_of_padded :
    Filter.readEntry (.str " db1.sys$log\u2003") = .ok ⟨"db1", "sys$log"⟩ ∧
      (trimText " db1.sys$log\u2003").toList.count '.' = 1 ∧
      ∃ failure fault, Filter.readEntry (.str "a.b.c") = .error failure ∧ parse "a.b.c" = .error fault ∧
        failure.code = "InvalidPatternError" ∧ failure.details = [("pattern", .str "a.b.c")] ∧
        failure.message = "Invalid namespace pattern 'a.b.c': " ++ fault.message := by
  have hread : Filter.readEntry (.str " db1.sys$log\u2003") = .ok ⟨"db1", "sys$log"⟩ := rfl
  refine ⟨hread, (read_iff_spelled " db1.sys$log\u2003").2.1 _ hread, ?_⟩
  apply (read_iff_spelled "a.b.c").2.2.2
  intro p hp htext
  -- the text holds two points, that of a pattern holds one
  have hcount : (trimText "a.b.c").toList.count '.' = 2 := rfl
  have hone : p.text.toList.count '.' = 1 := hp.count_point
  rw [htext] at hcount
  exact absurd (hcount.symm.trans hone) (by decide)

/-- A line break at the end of a database name is let through, which is no name of the grammar. -/
theorem line_break_in_database_name :
    Filter.readEntry (.str "db\n.coll") = .ok ⟨"db\n", "coll"⟩ ∧
      ¬ ∃ p : Pattern, p.IsSpelled ∧ trimText "db\n.coll" = p.database ++ "." ++ p.collection := by
  refine ⟨rfl, ?_⟩
  rintro ⟨p, hp, htext⟩
  have hbreak : '\n' ∈ (trimText "db\n.coll").toList := by decide
  rw [htext] at hbreak
  exact absurd ((isSpelled_iff_isReadable.mp hp).2 _ hbreak) (by decide)

/-! ### Reading and writing -/

/-- **Reading and writing undo each other.**  The text of a pattern that was read is what was read, without
the blanks around it; it is read as this pattern again, and so is every text that differs in the blanks
around it only.  Texts that differ otherwise are read as different patterns.  A pattern of the grammar is
read from its text. -/
theorem parse_and_text_inverse :
    (∀ s p, parse s = .ok p →
      p.text = trimText s ∧ parse p.text = .ok p ∧
        (∀ t, trimText t = trimText s → parse t = .ok p) ∧
        ∀ before after : List Char, (∀ c ∈ before, isBlank c = true) → (∀ c ∈ after, isBlank c = true) →
          parse (String.ofList (before ++ s.toList ++ after)) = .ok p) ∧
    (∀ s t p, parse s = .ok p → parse t = .ok p → trimText s = trimText t) ∧
    ∀ p : Pattern, p.IsSpelled → parse p.text = .ok p := by
  refine ⟨fun s p h => ?_, fun s t p hs ht => ?_, fun p hp => ?_⟩
  · have hsame (t : String) (ht : trimText t = trimText s) : parse t = .ok p := by
      rw [parse_eq_ok_iff, ht, ← parse_eq_ok_iff]
      exact h
    refine ⟨text_eq_trimText h, parse_text h, hsame, fun before after hbefore hafter => hsame _ ?_⟩
    rw [trimText, String.toList_ofList, trim, trimWhile_padded hbefore hafter]
    rfl
  · rw [← text_eq_trimText hs, ← text_eq_trimText ht]
  · rw [parse_eq_ok_iff, trimText, hp.isReadable.trim_text, String.ofList_toList]
    exact ⟨hp.isReadable, rfl⟩

/-- A wildcard pattern in two forms with different blanks around it. -/
theorem parse_and_text_inverse_of_wildcard :
    parse "\u2003db-1.*\t" = .ok ⟨"db-1", "*"⟩ ∧ parse "db-1.*" = .ok ⟨"db-1", "*"⟩ ∧
      (⟨"db-1", "*"⟩ : Pattern).text = trimText "\u2003db-1.*\t" ∧
      trimText "\u2003db-1.*\t" = trimText "db-1.*" ∧
      parse (String.ofList (['\x1c'] ++ "\u2003db-1.*\t".toList ++ ['\n'])) = .ok ⟨"db-1", "*"⟩ ∧
      parse (⟨"db-1", "*"⟩ : Pattern).text = .ok ⟨"db-1", "*"⟩ := by
  have hpadded : parse "\u2003db-1.*\t" = .ok ⟨"db-1", "*"⟩ := rfl
  have hplain : parse "db-1.*" = .ok ⟨"db-1", "*"⟩ := rfl
  have hspelled : (⟨"db-1", "*"⟩ : Pattern).IsSpelled := by decide
  obtain ⟨hread, hinjective, hwritten⟩ := parse_and_text_inverse
  obtain ⟨htext, _, _, hblanks⟩ := hread _ _ hpadded
  have hagain := hblanks ['\x1c'] ['\n'] (List.forall_mem_singleton.mpr rfl)
    (List.forall_mem_singleton.mpr rfl)
  exact ⟨hpadded, hplain, htext, hinjective _ _ _ hpadded hplain, hagain, hwritten _ hspelled⟩

end Pattern

end Cutover
