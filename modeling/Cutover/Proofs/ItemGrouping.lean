import Cutover.Proofs.ScopeOptions

/-!
# Items do not depend on how they are grouped

Namespaces may be named in several values of an option or in one value with commas between them.  What is
read is the same: main statement `Namespace.flatItems_regrouped`, which also tells what is read.  Between the
commas of the values stand pieces (`Namespace.IsPiecesOf`), and each piece that holds more than blanks gives
one item, which is the piece without the blanks around it (`Namespace.IsTrimOf`), in the order of the pieces.

The comma that joins two values is a comma like those inside them, so the pieces of a joined text are the
pieces of its parts (`Text.split_join_eq_flatMap`).  An item is one piece with nothing to trim, so items are
read again as they are.
-/

namespace Cutover

namespace Namespace

open Text

variable {s piece item : String} {pieces values : List String}

/-! ### Pieces of a value -/

/-- The pieces of a text are texts without commas that make the text when commas are put between them. -/
structure IsPiecesOf (pieces : List String) (s : String) : Prop where
  ne_nil : pieces ≠ []
  comma_not_mem : ∀ piece ∈ pieces, ',' ∉ piece.toList
  joined : joinText "," pieces = s

/-- A text has its pieces in one way. -/
theorem isPiecesOf_iff : IsPiecesOf pieces s ↔ pieces = splitText ',' s := by
  constructor
  · rintro ⟨hne, hcomma, rfl⟩
    rw [splitText_joinText rfl hne]
    have hpiece : ∀ piece ∈ pieces, splitText ',' piece = [piece] :=
      fun piece hpiece => splitText_of_not_mem (hcomma piece hpiece)
    rw [List.flatMap_congr hpiece, List.flatMap_singleton']
  · rintro rfl
    exact ⟨splitText_ne_nil ',' s, fun piece => not_mem_of_mem_splitText, joinText_splitText rfl s⟩

theorem forall₂_isPiecesOf_iff {groups : List (List String)} :
    List.Forall₂ IsPiecesOf groups values ↔ groups = values.map (splitText ',') := by
  have hone : IsPiecesOf = fun pieces s => pieces = splitText ',' s := by
    funext pieces s
    exact propext isPiecesOf_iff
  rw [hone, ← List.forall₂_map_right_iff (R := fun x y => x = y), List.forall₂_eq_eq_eq]

/-! ### Pieces without the blanks around them -/

/-- An item is a piece without the blanks around it: it begins and ends with what is no blank. -/
structure IsTrimOf (item piece : String) : Prop where
  padded : ∃ before after, (∀ c ∈ before ++ after, isBlank c = true) ∧
    piece.toList = before ++ item.toList ++ after
  head : ∀ c ∈ item.toList.head?, isBlank c = false
  last : ∀ c ∈ item.toList.getLast?, isBlank c = false

/-- The piece begins with blanks, and behind the item there are only blanks. -/
theorem isTrimOf_trimText (piece : String) : IsTrimOf (trimText piece) piece where
  padded := by
    have hfront := List.takeWhile_append_dropWhile (p := isBlank) (l := piece.toList)
    have hback := List.rdropWhile_append_rtakeWhile (p := isBlank) (l := piece.toList.dropWhile isBlank)
    refine ⟨piece.toList.takeWhile isBlank, (piece.toList.dropWhile isBlank).rtakeWhile isBlank, ?_, ?_⟩
    · rw [List.forall_mem_append]
      exact ⟨fun c hc => List.mem_takeWhile_imp hc, fun c hc => List.mem_rtakeWhile_imp hc⟩
    · rw [trimText, String.toList_ofList, List.append_assoc]
      exact (hfront.symm.trans (congrArg _ hback.symm))
  head c hc := by
    rw [trimText, String.toList_ofList] at hc
    cases htrim : trim piece.toList with
    | nil => rw [htrim] at hc; cases hc
    | cons first rest =>
      rw [htrim] at hc
      obtain rfl : first = c := Option.some.inj hc
      have hkept := dropWhile_trimWhile isBlank piece.toList
      rw [← trim, htrim] at hkept
      simpa using hkept
  last c hc := by
    rw [trimText, String.toList_ofList] at hc
    obtain ⟨hne, rfl⟩ := List.mem_getLast?_eq_getLast hc
    exact Bool.eq_false_iff.mpr (List.rdropWhile_last_not isBlank (piece.toList.dropWhile isBlank) hne)

/-- Whether a piece holds more than blanks. -/
def isFilled (piece : String) : Bool :=
  piece.toList.any fun c => !isBlank c

/-- Something is left of a piece exactly if it holds more than blanks. -/
theorem trimText_ne_empty_iff : trimText piece ≠ "" ↔ isFilled piece = true := by
  have htrim := isTrimOf_trimText piece
  obtain ⟨before, after, hblank, hpadded⟩ := htrim.padded
  rw [isFilled, hpadded, List.any_eq_true]
  constructor
  · intro hne
    -- the first character of what is left is no blank
    have hitem : (trimText piece).toList ≠ [] := by simpa using hne
    obtain ⟨c, rest, hcons⟩ := List.exists_cons_of_ne_nil hitem
    refine ⟨c, by simp [hcons], ?_⟩
    rw [htrim.head c (by rw [hcons]; rfl), Bool.not_false]
  · rintro ⟨c, hc, hfilled⟩ hempty
    rw [hempty, String.toList_empty, List.append_nil] at hc
    rw [hblank c hc] at hfilled
    cases hfilled

/-! ### Items -/

/-- The items of values are the pieces that hold more than blanks, without the blanks around them. -/
theorem flatItems_eq (values : List String) :
    flatItems values = ((values.flatMap (splitText ',')).filter isFilled).map trimText := by
  have hone (s : String) : items s = ((splitText ',' s).filter isFilled).map trimText := by
    rw [items, List.filter_map]
    congr 2
    funext piece
    exact Bool.eq_iff_iff.mpr (by simpa using trimText_ne_empty_iff)
  induction values with
  | nil => rfl
  | cons s values ih =>
    rw [flatItems, List.flatMap_cons, hone, ← flatItems, ih, List.flatMap_cons, List.filter_append,
      List.map_append]

theorem flatItems_joinText (values : List String) :
    flatItems [joinText "," values] = flatItems values := by
  cases values with
  | nil => rfl
  | cons s values =>
    rw [flatItems_eq, flatItems_eq, List.flatMap_singleton,
      splitText_joinText rfl (List.cons_ne_nil s values)]

/-- What an item is. -/
theorem spec_of_mem_flatItems (h : item ∈ flatItems values) :
    item ≠ "" ∧ ',' ∉ item.toList ∧ (∀ c ∈ item.toList.head?, isBlank c = false) ∧
      ∀ c ∈ item.toList.getLast?, isBlank c = false := by
  rw [flatItems_eq, List.mem_map] at h
  obtain ⟨piece, hpiece, rfl⟩ := h
  obtain ⟨hmem, hfilled⟩ := List.mem_filter.mp hpiece
  obtain ⟨s, _, hs⟩ := List.mem_flatMap.mp hmem
  have htrim := isTrimOf_trimText piece
  refine ⟨trimText_ne_empty_iff.mpr hfilled, fun hcomma => ?_, htrim.head, htrim.last⟩
  -- a comma of the item would be one of the piece
  obtain ⟨before, after, _, hpadded⟩ := htrim.padded
  exact not_mem_of_mem_splitText hs (by simp [hpadded, hcomma])

/-- An item is read as itself. -/
theorem items_of_mem_flatItems (h : item ∈ flatItems values) : items item = [item] := by
  obtain ⟨hne, hcomma, hhead, hlast⟩ := spec_of_mem_flatItems h
  have htrim : trimText item = item := by
    rw [trimText, trim, trimWhile_eq_self hhead hlast, String.ofList_toList]
  rw [items, splitText_of_not_mem hcomma, List.map_singleton, htrim]
  simp [hne]

theorem flatItems_flatItems (values : List String) : flatItems (flatItems values) = flatItems values := by
  have hself : ∀ item ∈ flatItems values, items item = [item] := fun item => items_of_mem_flatItems
  conv_lhs => rw [flatItems, List.flatMap_congr hself, List.flatMap_singleton']

/-- A list of texts offers its texts. -/
theorem itemsOfValue_ofTexts (values : List String) :
    itemsOfValue (.ofTexts values) = .ok (flatItems values) := by
  have hentries : (Json.ofTexts values).entries? = some (values.map .str) := by
    cases values with
    | nil => rfl
    | cons s values => rfl
  have htexts : entryTexts (values.map .str) = .ok values := by
    clear hentries
    induction values with
    | nil => rfl
    | cons s values ih => rw [List.map_cons, entryTexts, ih]; rfl
  rw [itemsOfValue, hentries]
  simp only [htexts]
  rfl

/-- **Items do not depend on how they are grouped.**  The items of values are the items of the one value
that joins them with commas; they are their own items; and a list of the values always has them.  Every
value has pieces between its commas, in one way only, and the items are, one for one and in order, the pieces
of all values that hold more than blanks, without the blanks around them.  So no item is empty, holds a comma,
or begins or ends with a blank. -/
theorem flatItems_regrouped (values : List String) :
    flatItems [joinText "," values] = flatItems values ∧
      flatItems (flatItems values) = flatItems values ∧
      itemsOfValue (.ofTexts values) = .ok (flatItems values) ∧
      (∃ groups : List (List String),
        (∀ others, List.Forall₂ IsPiecesOf others values ↔ others = groups) ∧
          List.Forall₂ IsTrimOf (flatItems values) (groups.flatten.filter isFilled)) ∧
      ∀ item ∈ flatItems values, item ≠ "" ∧ ',' ∉ item.toList ∧
        (∀ c ∈ item.toList.head?, isBlank c = false) ∧ ∀ c ∈ item.toList.getLast?, isBlank c = false := by
  refine ⟨flatItems_joinText values, flatItems_flatItems values, itemsOfValue_ofTexts values,
    ⟨values.map (splitText ','), fun others => forall₂_isPiecesOf_iff, ?_⟩,
    fun item => spec_of_mem_flatItems⟩
  rw [flatItems_eq, ← List.flatMap_def, List.forall₂_map_left_iff, List.forall₂_same]
  exact fun piece _ => isTrimOf_trimText piece

-- Blanks around the pieces are no part of the items, and empty pieces give none.
example : flatItems [" db1.a,, db2.*\t", "", "\u00A0db3.b,"] = ["db1.a", "db2.*", "db3.b"] := by
  decide +kernel

end Namespace
end Cutover
