import Cutover.Proofs.PatternGrammar

/-!
# Which namespaces a scope takes in

A filter decides by the texts it was built from: a namespace takes part if no excluded entry picks it out
and, unless there are no included entries, some included entry does.  An entry picks out a namespace if it
is, without the blanks around it, the text of the namespace or that of its whole database.  So neither the
order of the entries counts nor how often one is given or how it is padded.  Main statement:
`Filter.scope_decided_by_texts`.

A text that is read holds one point, so it is the text of one namespace only
(`Pattern.IsReadable.text_eq_iff`): what a pattern covers is what its entry picks out
(`Pattern.covers_iff_picksOut`).
-/

namespace Cutover

open Text

/-- Whether an entry is, without the blanks around it, the text of a namespace or of its database. -/
def PicksOut (entry database collection : String) : Prop :=
  trimText entry = database ++ "." ++ collection ∨ trimText entry = database ++ ".*"

instance (entry database collection : String) : Decidable (PicksOut entry database collection) :=
  inferInstanceAs (Decidable (_ ∨ _))

namespace Pattern

variable {p : Pattern} {s database collection : String}

/-- The text of a pattern that is read is that of its two names alone. -/
theorem IsReadable.text_eq_iff (h : p.IsReadable) :
    p.text = database ++ "." ++ collection ↔ p.database = database ∧ p.collection = collection := by
  constructor
  · intro htext
    have hcs : p.text.toList = database.toList ++ '.' :: collection.toList := by
      rw [htext]
      exact toList_text_eq ⟨database, collection⟩
    -- the one point of the text stands between the two names
    have hpoint : '.' ∉ database.toList := by
      have hcount := h.count_point
      rw [hcs, List.count_append, List.count_cons_self] at hcount
      exact List.not_mem_of_count_eq_zero (by omega)
    have hsplit := h.split_text
    rw [hcs, split_append_cons hpoint, List.cons.injEq] at hsplit
    have hrest : collection.toList = p.collection.toList := by
      rw [← join_split '.' collection.toList, hsplit.2, join_singleton]
    exact ⟨(String.toList_inj.mp hsplit.1).symm, (String.toList_inj.mp hrest).symm⟩
  · rintro ⟨rfl, rfl⟩
    rfl

/-- A pattern covers the namespaces that the entry it was read from picks out. -/
theorem covers_iff_picksOut (h : parse s = .ok p) :
    p.covers database collection = true ↔ PicksOut s database collection := by
  obtain ⟨hreadable, htext⟩ := parse_eq_ok_iff.mp h
  have hwildcard : database ++ ".*" = database ++ "." ++ wildcard := by
    rw [String.append_assoc]
    rfl
  rw [covers_iff, PicksOut, htext, hwildcard, hreadable.text_eq_iff, hreadable.text_eq_iff]
  constructor
  · rintro ⟨rfl, hall | hone⟩
    · exact Or.inr ⟨rfl, hall⟩
    · exact Or.inl ⟨rfl, hone.symm⟩
  · rintro (⟨rfl, rfl⟩ | ⟨rfl, hall⟩)
    · exact ⟨rfl, Or.inr rfl⟩
    · exact ⟨rfl, Or.inl hall⟩

end Pattern

namespace Filter

variable {texts others kept left : List String} {p : Pattern} {f : Filter} {database collection : String}

/-- The patterns of a list of texts are those that its texts are read as. -/
theorem mem_goodPatterns_texts : p ∈ goodPatterns (texts.map .str) [] ↔
    ∃ s ∈ texts, Pattern.parse s = .ok p := by
  rw [mem_goodPatterns]
  constructor
  · rintro ⟨entry, hentry, hp⟩
    obtain ⟨s, hs, rfl⟩ := List.mem_map.mp hentry
    exact ⟨s, hs, hp⟩
  · rintro ⟨s, hs, hp⟩
    exact ⟨.str s, List.mem_map_of_mem hs, hp⟩

/-- Some pattern of a list covers a namespace if some entry picks it out. -/
theorem exists_covers_iff (h : badEntries (texts.map .str) = []) :
    (∃ p ∈ goodPatterns (texts.map .str) [], p.covers database collection = true) ↔
      ∃ s ∈ texts, PicksOut s database collection := by
  rw [badEntries_eq_nil, List.forall_mem_map] at h
  constructor
  · rintro ⟨p, hmem, hcovers⟩
    obtain ⟨s, hs, hp⟩ := mem_goodPatterns_texts.mp hmem
    exact ⟨s, hs, (Pattern.covers_iff_picksOut hp).mp hcovers⟩
  · rintro ⟨s, hs, hpicks⟩
    obtain ⟨p, hp⟩ := h s hs
    exact ⟨p, mem_goodPatterns_texts.mpr ⟨s, hs, hp⟩, (Pattern.covers_iff_picksOut hp).mpr hpicks⟩

/-- A list has no patterns if it has no entries. -/
theorem goodPatterns_eq_nil_iff (h : badEntries (texts.map .str) = []) :
    goodPatterns (texts.map .str) [] = [] ↔ texts = [] := by
  rw [badEntries_eq_nil, List.forall_mem_map] at h
  constructor
  · intro hnone
    rw [List.eq_nil_iff_forall_not_mem] at hnone ⊢
    intro s hs
    obtain ⟨p, hp⟩ := h s hs
    exact hnone p (mem_goodPatterns_texts.mpr ⟨s, hs, hp⟩)
  · rintro rfl
    rfl

/-- A filter takes in the namespaces that are picked out by its entries. -/
theorem admits_iff_picksOut (h : build (kept.map .str) (left.map .str) = .ok f) :
    f.admits database collection = true ↔
      (kept = [] ∨ ∃ s ∈ kept, PicksOut s database collection) ∧
        ¬ ∃ s ∈ left, PicksOut s database collection := by
  obtain ⟨hkept, hleft, rfl⟩ := build_eq_ok.mp h
  rw [admits_iff, goodPatterns_eq_nil_iff hkept, exists_covers_iff hkept, ← exists_covers_iff hleft,
    and_comm]
  simp

/-- Two lists whose trimmed texts are the same pick out the same namespaces. -/
theorem exists_picksOut_congr (h : ∀ t, t ∈ texts.map trimText ↔ t ∈ others.map trimText) :
    (∃ s ∈ texts, PicksOut s database collection) ↔ ∃ s ∈ others, PicksOut s database collection := by
  have htrimmed (texts : List String) : (∃ s ∈ texts, PicksOut s database collection) ↔
      ∃ t ∈ texts.map trimText, t = database ++ "." ++ collection ∨ t = database ++ ".*" := by
    constructor
    · rintro ⟨s, hs, hpicks⟩
      exact ⟨trimText s, List.mem_map_of_mem hs, hpicks⟩
    · rintro ⟨t, ht, hpicks⟩
      obtain ⟨s, hs, rfl⟩ := List.mem_map.mp ht
      exact ⟨s, hs, hpicks⟩
  rw [htrimmed, htrimmed]
  exact exists_congr fun t => and_congr_left fun _ => h t

/-- Of two lists whose trimmed texts are the same both are empty or none is. -/
theorem eq_nil_congr (h : ∀ t, t ∈ texts.map trimText ↔ t ∈ others.map trimText) :
    texts = [] ↔ others = [] := by
  have htrimmed (texts : List String) : texts = [] ↔ ∀ t, t ∉ texts.map trimText := by
    rw [← List.eq_nil_iff_forall_not_mem, List.map_eq_nil_iff]
  rw [htrimmed, htrimmed]
  exact forall_congr' fun t => not_congr (h t)

/-- **A scope is decided by texts.**  A filter that was built from two lists of texts takes in a namespace
exactly if the included texts are none or pick it out, and the excluded texts do not.  Two filters whose
lists have the same texts but for order, repetitions and blanks around them take in the same namespaces.
What an excluded text picks out is left out by every filter that excludes the same texts, whatever it
includes. -/
theorem scope_decided_by_texts (h : build (kept.map .str) (left.map .str) = .ok f) :
    (∀ database collection, f.admits database collection = true ↔
      (kept = [] ∨ ∃ s ∈ kept, PicksOut s database collection) ∧
        ¬ ∃ s ∈ left, PicksOut s database collection) ∧
    ∀ (kept' left' : List String) (f' : Filter), build (kept'.map .str) (left'.map .str) = .ok f' →
      (∀ t, t ∈ left.map trimText ↔ t ∈ left'.map trimText) →
      ((∀ t, t ∈ kept.map trimText ↔ t ∈ kept'.map trimText) →
        ∀ database collection, f'.admits database collection = f.admits database collection) ∧
      ∀ database collection, (∃ s ∈ left, PicksOut s database collection) →
        f'.admits database collection = false := by
  refine ⟨fun database collection => admits_iff_picksOut h, fun kept' left' f' h' hleft => ⟨?_, ?_⟩⟩
  · intro hkept database collection
    rw [Bool.eq_iff_iff, admits_iff_picksOut h', admits_iff_picksOut h, eq_nil_congr hkept,
      exists_picksOut_congr hkept, exists_picksOut_congr hleft]
  · intro database collection hpicks
    rw [← Bool.not_eq_true, admits_iff_picksOut h', ← exists_picksOut_congr hleft]
    exact fun hadmits => hadmits.2 hpicks

/-- Two filters of the same texts in another order, with other blanks and one text twice, and a third that
includes what they exclude. -/
theorem scope_decided_by_texts_of_reordered :
    ∃ f f' f'' : Filter,
      build ([" db1.a", "db2.*"].map .str) (["db2.log"].map .str) = .ok f ∧
        build (["db2.*", "db1.a\u2003", "db2.*"].map .str) (["db2.log\n", "db2.log"].map .str) = .ok f' ∧
        build (["db2.log"].map .str) (["db2.log"].map .str) = .ok f'' ∧
        f.admits "db2" "x" = true ∧
        (∀ database collection, f'.admits database collection = f.admits database collection) ∧
        f''.admits "db2" "log" = false := by
  let f : Filter := ⟨[⟨"db1", "a"⟩, ⟨"db2", "*"⟩], [⟨"db2", "log"⟩]⟩
  let f' : Filter := ⟨[⟨"db2", "*"⟩, ⟨"db1", "a"⟩], [⟨"db2", "log"⟩]⟩
  let f'' : Filter := ⟨[⟨"db2", "log"⟩], [⟨"db2", "log"⟩]⟩
  have h : build ([" db1.a", "db2.*"].map .str) (["db2.log"].map .str) = .ok f := rfl
  have h' : build (["db2.*", "db1.a\u2003", "db2.*"].map .str) (["db2.log\n", "db2.log"].map .str) =
    .ok f' := rfl
  have h'' : build (["db2.log"].map .str) (["db2.log"].map .str) = .ok f'' := rfl
  obtain ⟨hdecides, hsame⟩ := scope_decided_by_texts h
  have hkept (t : String) : t ∈ [" db1.a", "db2.*"].map trimText ↔
      t ∈ ["db2.*", "db1.a\u2003", "db2.*"].map trimText := by
    have hlists : [" db1.a", "db2.*"].map trimText = ["db1.a", "db2.*"] ∧
        ["db2.*", "db1.a\u2003", "db2.*"].map trimText = ["db2.*", "db1.a", "db2.*"] := ⟨rfl, rfl⟩
    rw [hlists.1, hlists.2]
    simp only [List.mem_cons, List.not_mem_nil, or_false]
    tauto
  have hleft (t : String) : t ∈ ["db2.log"].map trimText ↔ t ∈ ["db2.log\n", "db2.log"].map trimText := by
    have hlists : ["db2.log"].map trimText = ["db2.log"] ∧
        ["db2.log\n", "db2.log"].map trimText = ["db2.log", "db2.log"] := ⟨rfl, rfl⟩
    rw [hlists.1, hlists.2]
    simp
  exact ⟨f, f', f'', h, h', h'', (hdecides "db2" "x").mpr (by decide), (hsame _ _ f' h' hleft).1 hkept,
    (hsame _ _ f'' h'' fun _ => Iff.rfl).2 "db2" "log" (by decide)⟩

end Filter

end Cutover
