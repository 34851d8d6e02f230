import Cutover.Namespace.Filter
import Mathlib.Data.List.DropRight
import Mathlib.Data.List.Induction
import Mathlib.Data.List.Nodup

/-!
# The texts of a scope lead back to it

The text of a pattern that was read is what was read, without the blanks around it (`Pattern.toList_text`),
so it is read as the same pattern.  The lists of a filter are the patterns that their entries are read as,
each where it is read first (`Filter.goodPatterns_eq`): no pattern is there twice, so nothing is dropped
when the filter is built again from the texts of its patterns.  Main statements: `Filter.build_texts`, and
`Filter.texts_of_build`, which texts the patterns of a filter have.
-/

namespace Cutover

/-! ### Lists without what they repeat -/

section Distinct

variable {α β : Type} [DecidableEq α] [DecidableEq β] {x : α} {xs : List α}

/-- What repeats an item before it is dropped. -/
theorem eraseDups_append_cons (h : x ∈ xs) (ys : List α) :
    (xs ++ x :: ys).eraseDups = (xs ++ ys).eraseDups := by
  rw [List.eraseDups_append, List.eraseDups_append]
  simp [List.removeAll, h]

/-- An item that is new is kept. -/
theorem eraseDups_concat (h : x ∉ xs) : (xs ++ [x]).eraseDups = xs.eraseDups ++ [x] := by
  rw [List.eraseDups_append]
  simp [List.removeAll, h, List.eraseDups_cons]

theorem nodup_eraseDups (xs : List α) : xs.eraseDups.Nodup := by
  induction xs using List.reverseRecOn with
  | nil => exact List.nodup_nil
  | append_singleton xs x ih =>
    by_cases hx : x ∈ xs
    · rwa [eraseDups_append_cons hx, List.append_nil]
    · rw [eraseDups_concat hx, List.nodup_append_comm, List.singleton_append, List.nodup_cons,
        List.mem_eraseDups]
      exact ⟨hx, ih⟩

theorem eraseDups_of_nodup (h : xs.Nodup) : xs.eraseDups = xs := by
  induction xs using List.reverseRecOn with
  | nil => rfl
  | append_singleton xs x ih =>
    rw [List.nodup_append_comm, List.singleton_append, List.nodup_cons] at h
    rw [eraseDups_concat h.1, ih h.2]

/-- Items that are told apart by what they are mapped to are dropped before or after that. -/
theorem map_eraseDups {f : α → β} (h : ∀ a ∈ xs, ∀ b ∈ xs, f a = f b → a = b) :
    xs.eraseDups.map f = (xs.map f).eraseDups := by
  induction xs using List.reverseRecOn with
  | nil => rfl
  | append_singleton xs x ih =>
    have hxs (a : α) (ha : a ∈ xs) (b : α) (hb : b ∈ xs) : f a = f b → a = b :=
      h a (List.mem_append_left _ ha) b (List.mem_append_left _ hb)
    rw [List.map_append, List.map_singleton]
    by_cases hx : x ∈ xs
    · rw [eraseDups_append_cons hx, eraseDups_append_cons (List.mem_map_of_mem hx), List.append_nil,
        List.append_nil, ih hxs]
    · -- what is new stays new under the map, for nothing before is mapped to the same
      have hfx : f x ∉ xs.map f := by
        intro hmem
        obtain ⟨a, ha, hfa⟩ := List.mem_map.mp hmem
        have hax : a = x := h a (List.mem_append_left _ ha) x (by simp) hfa
        exact hx (hax ▸ ha)
      rw [eraseDups_concat hx, eraseDups_concat hfx, List.map_append, List.map_singleton, ih hxs]

end Distinct

namespace Text

/-- What is left by trimming begins with a character that is kept. -/
theorem dropWhile_trimWhile (p : Char → Bool) (cs : List Char) :
    (trimWhile p cs).dropWhile p = trimWhile p cs := by
  -- it begins with the first character that is left at the front
  have hinit : trimWhile p cs <+: cs.dropWhile p := List.rdropWhile_prefix p _
  rw [List.dropWhile_eq_self_iff]
  intro hpos
  rw [hinit.getElem hpos]
  exact List.dropWhile_get_zero_not p cs _

/-- What is left by trimming is left by trimming it once more. -/
theorem trimWhile_trimWhile (p : Char → Bool) (cs : List Char) :
    trimWhile p (trimWhile p cs) = trimWhile p cs := by
  rw [trimWhile, dropWhile_trimWhile]
  exact List.rdropWhile_idempotent p _

end Text

namespace Pattern

open Text

variable {s t : String} {p : Pattern}

/-- Two names that are let through are those of the pattern. -/
theorem ofNames_eq_ok {database collection : List Char} (h : ofNames database collection = .ok p) :
    p = ⟨String.ofList database, String.ofList collection⟩ := by
  unfold ofNames at h
  split_ifs at h
  exact (Except.ok.inj h).symm

/-- The text of a pattern that was read is what was read, without the blanks around it. -/
theorem toList_text (h : parse s = .ok p) : p.text.toList = trim s.toList := by
  unfold parse at h
  dsimp only at h
  split at h
  · cases h
  · split at h
    · next database collection hsplit =>
      rw [ofNames_eq_ok h, ← join_split '.' (trim s.toList), hsplit]
      simp [text, join_cons_cons]
    · cases h

theorem text_eq_trimText (h : parse s = .ok p) : p.text = trimText s := by
  rw [trimText, ← toList_text h, String.ofList_toList]

/-- Only what is left without the blanks around it is read. -/
theorem parse_congr (h : trim s.toList = trim t.toList) : parse s = parse t := by
  rw [parse, parse, h]

/-- The text of a pattern that was read is read as the same pattern. -/
theorem parse_text (h : parse s = .ok p) : parse p.text = .ok p := by
  rw [← h]
  apply parse_congr
  rw [toList_text h]
  exact trimWhile_trimWhile isBlank _

end Pattern

namespace Filter

open Text

variable {entry : Json} {entries included excluded : List Json} {found ps : List Pattern}
  {texts : List String} {p : Pattern} {f : Filter}

/-- All entries are patterns if none is reported. -/
theorem badEntries_eq_nil : badEntries entries = [] ↔ ∀ entry ∈ entries, ∃ p, parseEntry entry = .ok p := by
  rw [badEntries, List.filterMap_eq_nil_iff]
  refine forall₂_congr fun entry _ => ?_
  cases parseEntry entry <;> simp

/-- A filter is built if all entries are patterns. -/
theorem build_eq_ok : build included excluded = .ok f ↔
    badEntries included = [] ∧ badEntries excluded = [] ∧
      f = ⟨goodPatterns included [], goodPatterns excluded []⟩ := by
  rw [build, ← and_assoc, ← List.append_eq_nil_iff]
  cases badEntries included ++ badEntries excluded with
  | nil => simp [eq_comm]
  | cons bad more => simp

/-! ### The patterns of a list -/

/-- The patterns that the entries of a list are read as, with those that are repeated. -/
def readPatterns (entries : List Json) : List Pattern :=
  entries.filterMap fun entry => (parseEntry entry).toOption

theorem readPatterns_cons (h : parseEntry entry = .ok p) :
    readPatterns (entry :: entries) = p :: readPatterns entries :=
  List.filterMap_cons_some (congrArg Except.toOption h)

theorem mem_readPatterns : p ∈ readPatterns entries ↔ ∃ entry ∈ entries, parseEntry entry = .ok p := by
  rw [readPatterns, List.mem_filterMap]
  refine exists_congr fun entry => and_congr_right fun _ => ?_
  cases parseEntry entry <;> simp [Except.toOption]

/-- Behind the patterns that were found before, the patterns of the entries are found, each where it is
read first. -/
theorem goodPatterns_append (hfound : found.Nodup) :
    goodPatterns entries found = (found.reverse ++ readPatterns entries).eraseDups := by
  induction entries generalizing found with
  | nil =>
    have hsame := eraseDups_of_nodup (List.nodup_reverse.mpr hfound)
    simp [goodPatterns, readPatterns, hsame]
  | cons entry entries ih =>
    rw [goodPatterns]
    cases hentry : parseEntry entry with
    | error fault =>
      have hskip : readPatterns (entry :: entries) = readPatterns entries :=
        List.filterMap_cons_none (congrArg Except.toOption hentry)
      rw [hskip]
      exact ih hfound
    | ok q =>
      rw [readPatterns_cons hentry]
      dsimp only
      -- a pattern that was found before is passed over on both sides
      by_cases hold : q ∈ found
      · rw [if_pos (List.contains_iff_mem.mpr hold), ih hfound,
          eraseDups_append_cons (List.mem_reverse.mpr hold)]
      · rw [if_neg (by rwa [List.contains_iff_mem]), ih (List.nodup_cons.mpr ⟨hold, hfound⟩),
          List.reverse_cons, List.append_assoc, List.singleton_append]

/-- The patterns of a list are those that its entries are read as, each where it is read first. -/
theorem goodPatterns_eq : goodPatterns entries [] = (readPatterns entries).eraseDups :=
  goodPatterns_append .nil

theorem mem_goodPatterns : p ∈ goodPatterns entries [] ↔ ∃ entry ∈ entries, parseEntry entry = .ok p := by
  rw [goodPatterns_eq, List.mem_eraseDups, mem_readPatterns]

theorem nodup_goodPatterns (entries : List Json) : (goodPatterns entries []).Nodup := by
  rw [goodPatterns_eq]
  exact nodup_eraseDups _

/-- The texts of distinct patterns are read as these patterns, and none is dropped. -/
theorem goodPatterns_texts (hread : ∀ p ∈ ps, Pattern.parse p.text = .ok p) (hdistinct : ps.Nodup) :
    goodPatterns (ps.map (.str ·.text)) [] = ps := by
  have hps : readPatterns (ps.map (.str ·.text)) = ps := by
    rw [readPatterns, List.filterMap_map]
    conv_rhs => rw [← List.filterMap_some (l := ps)]
    exact List.filterMap_congr fun p hp => congrArg Except.toOption (hread p hp)
  rw [goodPatterns_eq, hps, eraseDups_of_nodup hdistinct]

/-- A pattern that an entry is read as is read from its own text. -/
theorem parse_text_of_read (h : p ∈ readPatterns entries) : Pattern.parse p.text = .ok p := by
  obtain ⟨entry, _, hentry⟩ := mem_readPatterns.mp h
  cases entry with
  | str s => exact Pattern.parse_text hentry
  | _ => cases hentry

theorem parse_text_of_mem (h : p ∈ goodPatterns entries []) : Pattern.parse p.text = .ok p := by
  rw [goodPatterns_eq, List.mem_eraseDups] at h
  exact parse_text_of_read h

/-- A filter that was built is built again from the texts of its patterns. -/
theorem build_texts (h : build included excluded = .ok f) :
    build (f.included.map (.str ·.text)) (f.excluded.map (.str ·.text)) = .ok f := by
  obtain ⟨_, _, rfl⟩ := build_eq_ok.mp h
  have hgood (entries : List Json) :
      badEntries ((goodPatterns entries []).map (.str ·.text)) = [] ∧
        goodPatterns ((goodPatterns entries []).map (.str ·.text)) [] = goodPatterns entries [] := by
    constructor
    · rw [badEntries_eq_nil, List.forall_mem_map]
      exact fun p hp => ⟨p, parse_text_of_mem hp⟩
    · exact goodPatterns_texts (fun p => parse_text_of_mem) (nodup_goodPatterns entries)
  rw [build_eq_ok, (hgood included).1, (hgood excluded).1, (hgood included).2, (hgood excluded).2]
  exact ⟨rfl, rfl, rfl⟩

theorem get?_payload_included :
    f.payload.get? "includeNamespaces" = some (.arr (f.included.map (.str ·.text))) := by
  simp [payload, Fields.get?, Json.ofTexts]

theorem get?_payload_excluded :
    f.payload.get? "excludeNamespaces" = some (.arr (f.excluded.map (.str ·.text))) := by
  simp [payload, Fields.get?, Json.ofTexts]

/-! ### The texts of a filter -/

/-- Entries of which none is reported are texts that are read as patterns. -/
theorem exists_texts (h : badEntries entries = []) : ∃ texts : List String,
    entries = texts.map .str ∧ ∀ s ∈ texts, ∃ p, Pattern.parse s = .ok p := by
  rw [badEntries_eq_nil] at h
  induction entries with
  | nil => exact ⟨[], rfl, nofun⟩
  | cons entry entries ih =>
    obtain ⟨⟨p, hp⟩, hrest⟩ := List.forall_mem_cons.mp h
    obtain ⟨texts, rfl, htexts⟩ := ih hrest
    cases entry with
    | str s => exact ⟨s :: texts, rfl, List.forall_mem_cons.mpr ⟨⟨p, hp⟩, htexts⟩⟩
    | _ => cases hp

/-- The texts of the patterns that are found are those that were read, trimmed, each where it is read
first. -/
theorem map_text_goodPatterns (hread : ∀ s ∈ texts, ∃ p, Pattern.parse s = .ok p) :
    (goodPatterns (texts.map .str) []).map (·.text) = (texts.map trimText).eraseDups := by
  have htexts : (readPatterns (texts.map .str)).map (·.text) = texts.map trimText := by
    induction texts with
    | nil => rfl
    | cons s texts ih =>
      obtain ⟨⟨p, hp⟩, hrest⟩ := List.forall_mem_cons.mp hread
      have hentry : parseEntry (.str s) = .ok p := hp
      rw [List.map_cons, readPatterns_cons hentry, List.map_cons, List.map_cons,
        ← Pattern.text_eq_trimText hp, ih hrest]
  have hinjective (p : Pattern) (hp : p ∈ readPatterns (texts.map .str))
      (q : Pattern) (hq : q ∈ readPatterns (texts.map .str)) (heq : p.text = q.text) : p = q := by
    have hsame := parse_text_of_read hp
    rw [heq, parse_text_of_read hq] at hsame
    exact (Except.ok.inj hsame).symm
  rw [goodPatterns_eq, map_eraseDups hinjective, htexts]

/-- The texts of a filter that was built are the entries, trimmed and without those that repeat one
before. -/
theorem texts_of_build (h : build included excluded = .ok f) :
    ∃ kept left : List String, included = kept.map .str ∧ excluded = left.map .str ∧
      f.included.map (·.text) = (kept.map trimText).eraseDups ∧
      f.excluded.map (·.text) = (left.map trimText).eraseDups := by
  obtain ⟨hincluded, hexcluded, rfl⟩ := build_eq_ok.mp h
  obtain ⟨kept, rfl, hkept⟩ := exists_texts hincluded
  obtain ⟨left, rfl, hleft⟩ := exists_texts hexcluded
  refine ⟨kept, left, rfl, rfl, ?_, ?_⟩
  · exact map_text_goodPatterns hkept
  · exact map_text_goodPatterns hleft

end Filter

end Cutover
