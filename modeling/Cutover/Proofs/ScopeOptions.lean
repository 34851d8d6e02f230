import Cutover.Namespace.Listing
import Cutover.Proofs.PatternGrammar
import Cutover.Protocol.Response

/-!
# A reported scope can be given again

The status tells the scope of a migration as two lists of texts.  They may be given again as the values of
options, several texts to a value with commas and blanks between them: what is read is the same two lists,
and the same filter is built from them.  Main statement: `scope_given_again`.

No text of a pattern holds a comma (`Pattern.comma_not_mem_text`) or loses anything to trimming
(`Pattern.trimText_text`), so the items of an option value are the texts that were put into it
(`Namespace.items_optionValue`).
-/

namespace Cutover

open Text

/-! ### The characters of a pattern -/

namespace Pattern

variable {s : String} {p : Pattern}

/-- The text of a pattern that was read holds no comma. -/
theorem comma_not_mem_text (h : parse s = .ok p) : ',' ∉ p.text.toList := by
  have hreadable : p.IsReadable := (parse_eq_ok_iff.mp h).1
  rw [toList_text_eq, List.mem_append, List.mem_cons]
  rintro (hc | hc | hc)
  · exact absurd (hreadable.of_mem_database hc) (by decide)
  · exact absurd hc (by decide)
  · exact absurd (hreadable.collection.of_mem hc) (by decide)

/-- The text of a pattern that was read loses nothing to trimming. -/
theorem trimText_text (h : parse s = .ok p) : trimText p.text = p.text :=
  (text_eq_trimText (parse_text h)).symm

theorem text_ne_empty (p : Pattern) : p.text ≠ "" := by
  intro h
  have hlength := congrArg String.length h
  simp [text] at hlength

end Pattern

/-! ### Option values -/

namespace Namespace

/-- An item as it may stand in the value of an option: with blanks around it. -/
structure PaddedItem where
  before : List Char
  item : String
  after : List Char
  before_blank : ∀ c ∈ before, isBlank c = true
  after_blank : ∀ c ∈ after, isBlank c = true

/-- An item with the blanks around it. -/
def PaddedItem.text (x : PaddedItem) : String :=
  String.ofList (x.before ++ x.item.toList ++ x.after)

/-- The value of an option that names several items. -/
def optionValue (xs : List PaddedItem) : String :=
  joinText "," (xs.map (·.text))

variable {x : PaddedItem} {xs : List PaddedItem} {values : List (List PaddedItem)}

theorem PaddedItem.comma_not_mem_text (h : ',' ∉ x.item.toList) : ',' ∉ x.text.toList := by
  have hblank {cs : List Char} (hcs : ∀ c ∈ cs, isBlank c = true) : ',' ∉ cs :=
    fun hmem => absurd (hcs _ hmem) (by decide)
  rw [text, String.toList_ofList, List.mem_append, List.mem_append]
  rintro ((hmem | hmem) | hmem)
  · exact hblank x.before_blank hmem
  · exact h hmem
  · exact hblank x.after_blank hmem

/-- The blanks around an item are trimmed. -/
theorem PaddedItem.trimText_text (x : PaddedItem) : trimText x.text = trimText x.item := by
  rw [trimText, trimText, text, String.toList_ofList, trim,
    trimWhile_padded x.before_blank x.after_blank]
  rfl

/-- The items of an option value are those that were put into it. -/
theorem items_optionValue (hcomma : ∀ x ∈ xs, ',' ∉ x.item.toList)
    (htrim : ∀ x ∈ xs, trimText x.item = x.item) (hne : ∀ x ∈ xs, x.item ≠ "") :
    items (optionValue xs) = xs.map (·.item) := by
  cases xs with
  | nil => rfl
  | cons x rest =>
    have hsplit : splitText ',' (optionValue (x :: rest)) = (x :: rest).map (·.text) := by
      -- no item holds a comma, so every one of them is a single piece
      have hpiece : ∀ y ∈ x :: rest, splitText ',' y.text = [y.text] :=
        fun y hy => splitText_of_not_mem (PaddedItem.comma_not_mem_text (hcomma y hy))
      rw [optionValue, splitText_joinText rfl (by simp), List.flatMap_map, List.flatMap_congr hpiece,
        ← List.map_eq_flatMap]
    have hitems : ((x :: rest).map (·.text)).map trimText = (x :: rest).map (·.item) := by
      rw [List.map_map]
      exact List.map_congr_left fun x hx => x.trimText_text.trans (htrim x hx)
    rw [items, hsplit, hitems, List.filter_eq_self]
    simpa using hne

/-- The items of several option values are those that were put into them, one value after the other. -/
theorem flatItems_optionValues (hcomma : ∀ x ∈ values.flatten, ',' ∉ x.item.toList)
    (htrim : ∀ x ∈ values.flatten, trimText x.item = x.item)
    (hne : ∀ x ∈ values.flatten, x.item ≠ "") :
    flatItems (values.map optionValue) = values.flatten.map (·.item) := by
  rw [flatItems, List.flatMap_map, List.map_flatten, List.flatMap]
  congr 1
  refine List.map_congr_left fun xs hxs => ?_
  have hmem (x : PaddedItem) (hx : x ∈ xs) : x ∈ values.flatten := List.mem_flatten_of_mem hxs hx
  exact items_optionValue (fun x hx => hcomma x (hmem x hx)) (fun x hx => htrim x (hmem x hx))
    fun x hx => hne x (hmem x hx)

end Namespace

/-! ### The lists of the status as option values -/

open Namespace

variable {included excluded : List String} {entries : List Json} {ps : List Pattern} {f : Filter}
  {s : Snapshot} {response : StatusResponse} {values kept left : List (List PaddedItem)}

/-- The texts of patterns that were read are read from option values as they are. -/
theorem Pattern.flatItems_texts (hps : ∀ p ∈ ps, parse p.text = .ok p)
    (hvalues : values.flatten.map (·.item) = ps.map (·.text)) :
    flatItems (values.map optionValue) = ps.map (·.text) := by
  have hitem (x : PaddedItem) (hx : x ∈ values.flatten) : ∃ p, parse p.text = .ok p ∧ p.text = x.item := by
    have hmem := List.mem_map_of_mem (f := PaddedItem.item) hx
    rw [hvalues] at hmem
    obtain ⟨p, hp, htext⟩ := List.mem_map.mp hmem
    exact ⟨p, hps p hp, htext⟩
  rw [← hvalues]
  apply flatItems_optionValues <;> intro x hx <;> obtain ⟨p, hp, htext⟩ := hitem x hx <;> rw [← htext]
  · exact comma_not_mem_text hp
  · exact trimText_text hp
  · exact p.text_ne_empty

theorem StatusResponse.lists_of_filter (hscope : s.filter = some f) (h : ofSnapshot s = .ok response) :
    response.included = f.included.map (·.text) ∧ response.excluded = f.excluded.map (·.text) := by
  unfold ofSnapshot at h
  cases hreason : (Checked.optionalText s.failureReason).under (.member "error") with
  | faulty faults => rw [hreason] at h; cases h
  | ok error =>
    rw [hreason, hscope] at h
    cases h
    exact ⟨rfl, rfl⟩

/-- **A reported scope can be given again.**  Take a filter that was built from two lists of texts, and the
two lists that the status tells of it, and distribute each of them over the values of options, in its
order, with commas between the texts and any blanks around them.  The items of the values are the two
lists, and the same filter is built from them, so that its payload is the same; and so it is from the lists
of its payload. -/
theorem scope_given_again
    (hbuild : Filter.build (included.map .str) (excluded.map .str) = .ok f)
    (hscope : s.filter = some f) (hstatus : StatusResponse.ofSnapshot s = .ok response)
    (hkept : kept.flatten.map (·.item) = response.included)
    (hleft : left.flatten.map (·.item) = response.excluded) :
    flatItems (kept.map optionValue) = response.included ∧
      flatItems (left.map optionValue) = response.excluded ∧
      (∃ again, Filter.build ((flatItems (kept.map optionValue)).map .str)
          ((flatItems (left.map optionValue)).map .str) = .ok again ∧
        again = f ∧ again.payload = f.payload) ∧
      ∃ ins outs : List Json,
        f.payload = [("includeNamespaces", .arr ins), ("excludeNamespaces", .arr outs)] ∧
          ins = response.included.map .str ∧ outs = response.excluded.map .str ∧
          Filter.build ins outs = .ok f := by
  obtain ⟨hincluded, hexcluded⟩ := StatusResponse.lists_of_filter hscope hstatus
  have hread : (∀ p ∈ f.included, Pattern.parse p.text = .ok p) ∧
      ∀ p ∈ f.excluded, Pattern.parse p.text = .ok p := by
    obtain ⟨_, _, rfl⟩ := Filter.build_eq_ok.mp hbuild
    exact ⟨fun p => Filter.parse_text_of_mem, fun p => Filter.parse_text_of_mem⟩
  have hkept := Pattern.flatItems_texts hread.1 (hkept.trans hincluded)
  have hleft := Pattern.flatItems_texts hread.2 (hleft.trans hexcluded)
  have hagain : Filter.build ((f.included.map (·.text)).map .str) ((f.excluded.map (·.text)).map .str) =
      .ok f := by
    rw [List.map_map, List.map_map]
    exact Filter.build_texts hbuild
  rw [hkept, hleft, hincluded, hexcluded]
  exact ⟨rfl, rfl, ⟨f, hagain, rfl, rfl⟩, _, _, rfl, rfl, rfl, hagain⟩

/-- Three patterns, of which one was given twice, come back in three option values, one of them empty. -/
theorem scope_given_again_in_three_values :
    ∃ (f : Filter) (s : Snapshot) (response : StatusResponse) (kept left : List (List PaddedItem)),
      Filter.build [.str " db1.* ", .str "db2.x", .str "db1.*", .str "db1.y$"] [.str "db1.log"] = .ok f ∧
        s.filter = some f ∧ StatusResponse.ofSnapshot s = .ok response ∧
        kept.flatten.map (·.item) = response.included ∧
        left.flatten.map (·.item) = response.excluded ∧
        kept.map optionValue = ["db1.*\t, db2.x", "", "\u00A0db1.y$"] ∧
        flatItems (kept.map optionValue) = ["db1.*", "db2.x", "db1.y$"] ∧
        Filter.build ((flatItems (kept.map optionValue)).map .str)
          ((flatItems (left.map optionValue)).map .str) = .ok f := by
  let f : Filter := ⟨[⟨"db1", "*"⟩, ⟨"db2", "x"⟩, ⟨"db1", "y$"⟩], [⟨"db1", "log"⟩]⟩
  let s : Snapshot := { Snapshot.fresh default with filter := some f }
  let kept : List (List PaddedItem) :=
    [[⟨[], "db1.*", ['\t'], nofun, List.forall_mem_singleton.mpr rfl⟩,
        ⟨[' '], "db2.x", [], List.forall_mem_singleton.mpr rfl, nofun⟩], [],
      [⟨['\u00A0'], "db1.y$", [], List.forall_mem_singleton.mpr rfl, nofun⟩]]
  let left : List (List PaddedItem) := [[⟨[], "db1.log", [], nofun, nofun⟩]]
  have hbuild : Filter.build ([" db1.* ", "db2.x", "db1.*", "db1.y$"].map .str) (["db1.log"].map .str) =
      .ok f := rfl
  have hkept : kept.flatten.map (·.item) = ["db1.*", "db2.x", "db1.y$"] := rfl
  have hleft : left.flatten.map (·.item) = ["db1.log"] := rfl
  obtain ⟨hitems, _, ⟨_, hagain, rfl, _⟩, _⟩ :=
    scope_given_again (s := s) hbuild rfl rfl hkept hleft
  exact ⟨f, s, _, kept, left, hbuild, rfl, rfl, hkept, hleft, rfl, hitems, hagain⟩

end Cutover
