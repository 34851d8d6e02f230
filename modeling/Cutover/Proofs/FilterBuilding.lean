import Cutover.Lifecycle.Rule
import Cutover.Proofs.PatternGrammar

/-!
# A filter is built whole or not at all

If every entry of two lists is a pattern, the filter has these patterns, each where it is given first.  If
not, nothing is built: the refusal names the first entry that is no pattern, with the reason it would be
refused for by itself, and lists all of them.  A start of an idle migration is accepted or rejected with
it.  Main statement: `Filter.build_whole_or_not_at_all`.

Every entry is either read or reported: what is read of a list is `Filter.readPatterns`, what is reported
are its malformed entries in their order (`Filter.map_fst_badEntries`), each with its own fault.
-/

namespace Cutover

namespace Filter

variable {entry : Json} {entries included excluded : List Json} {bad : Json × PatternFault}

/-- Whether an entry is no pattern. -/
def isMalformed (entry : Json) : Bool :=
  !(readEntry entry).isOk

theorem isMalformed_iff : isMalformed entry = true ↔ ∃ fault, parseEntry entry = .error fault := by
  rw [isMalformed, readEntry]
  cases parseEntry entry <;> simp [Except.mapError, Except.isOk, Except.toBool]

/-! ### What is read and what is reported -/

/-- If no entry of a list is malformed, its patterns are those of its entries one by one. -/
theorem map_readEntry (h : ∀ entry ∈ entries, isMalformed entry = false) :
    entries.map readEntry = (readPatterns entries).map .ok := by
  induction entries with
  | nil => rfl
  | cons entry entries ih =>
    obtain ⟨hentry, hrest⟩ := List.forall_mem_cons.mp h
    cases hparse : parseEntry entry with
    | ok p =>
      rw [readPatterns_cons hparse, List.map_cons, List.map_cons, readEntry_eq_ok_iff.mpr hparse, ih hrest]
    | error fault =>
      rw [isMalformed_iff.mpr ⟨fault, hparse⟩] at hentry
      cases hentry

/-- The entries that are reported are the malformed ones, in their order. -/
theorem map_fst_badEntries (entries : List Json) :
    (badEntries entries).map (·.1) = entries.filter isMalformed := by
  induction entries with
  | nil => rfl
  | cons entry entries ih =>
    rw [badEntries, List.filterMap_cons, ← badEntries, List.filter_cons]
    cases hparse : parseEntry entry with
    | ok p =>
      have hgood : ¬ isMalformed entry = true := by
        rw [isMalformed_iff, hparse]
        rintro ⟨fault, h⟩
        cases h
      rw [if_neg hgood]
      exact ih
    | error fault =>
      rw [if_pos (isMalformed_iff.mpr ⟨fault, hparse⟩)]
      exact congrArg (entry :: ·) ih

/-- An entry is reported with its own fault. -/
theorem parseEntry_of_mem_badEntries (h : bad ∈ badEntries entries) : parseEntry bad.1 = .error bad.2 := by
  rw [badEntries, List.mem_filterMap] at h
  obtain ⟨entry, _, hentry⟩ := h
  cases hparse : parseEntry entry with
  | ok p =>
    rw [hparse] at hentry
    cases hentry
  | error fault =>
    rw [hparse] at hentry
    rw [← Option.some.inj hentry]
    exact hparse

theorem badEntries_append (entries more : List Json) :
    badEntries (entries ++ more) = badEntries entries ++ badEntries more :=
  List.filterMap_append

/-! ### Both outcomes -/

/-- Without malformed entries a filter is built from what is read. -/
theorem build_of_no_malformed (h : ∀ entry ∈ included ++ excluded, isMalformed entry = false) :
    build included excluded =
      .ok ⟨(readPatterns included).eraseDups, (readPatterns excluded).eraseDups⟩ := by
  have hnone (entries : List Json) (hentries : ∀ entry ∈ entries, isMalformed entry = false) :
      badEntries entries = [] := by
    rw [← List.map_eq_nil_iff, map_fst_badEntries, List.filter_eq_nil_iff]
    intro entry hentry
    simp [hentries entry hentry]
  rw [List.forall_mem_append] at h
  rw [build_eq_ok, goodPatterns_eq, goodPatterns_eq]
  exact ⟨hnone included h.1, hnone excluded h.2, rfl⟩

/-- With a malformed entry nothing is built, and the malformed entries are told. -/
theorem build_of_malformed (h : ∃ entry ∈ included ++ excluded, isMalformed entry = true) :
    ∃ bad : BadEntries, build included excluded = .error bad ∧
      (included ++ excluded).find? isMalformed = some bad.first ∧
      parseEntry bad.first = .error bad.fault ∧
      bad.shown = ((included ++ excluded).filter isMalformed).map Json.displayText := by
  have hreported := map_fst_badEntries (included ++ excluded)
  cases hbad : badEntries (included ++ excluded) with
  | nil =>
    rw [hbad, List.map_nil, eq_comm, List.filter_eq_nil_iff] at hreported
    obtain ⟨entry, hmem, hentry⟩ := h
    exact absurd hentry (hreported entry hmem)
  | cons bad more =>
    refine ⟨⟨bad.1, bad.2, (bad :: more).map (·.1.displayText)⟩, ?_, ?_, ?_, ?_⟩
    · rw [build, ← badEntries_append, hbad]
    · -- the first entry that is reported is the first malformed one
      rw [← List.head?_filter, ← hreported, hbad]
      rfl
    · have hmem : bad ∈ badEntries (included ++ excluded) := by
        rw [hbad]
        exact List.mem_cons_self ..
      exact parseEntry_of_mem_badEntries hmem
    · rw [← hreported, hbad, List.map_map]
      rfl

end Filter

/-! ### Building and starting -/

variable {included excluded : List Json} {s : Snapshot} {f : Filter} {bad : BadEntries}

namespace Snapshot

/-- A start of an idle migration is accepted if its filter is built. -/
theorem start_of_build (hidle : s.state = .idle) (h : Filter.build included excluded = .ok f)
    (now : Timestamp) : s.start included excluded now =
      .moved { s.moveTo "start" .running f.payload now with filter := some f } := by
  have hallowed : Rule.isAllowed .start s.state = true := by rw [hidle]; rfl
  rw [start, if_pos hallowed, h]

/-- A start of an idle migration is rejected if its filter is not built. -/
theorem start_of_refused (hidle : s.state = .idle) (h : Filter.build included excluded = .error bad)
    (now : Timestamp) : s.start included excluded now = .rejected (.badScope bad) := by
  have hallowed : Rule.isAllowed .start s.state = true := by rw [hidle]; rfl
  rw [start, if_pos hallowed, h]

end Snapshot

namespace Rejection

/-- The details of a refused scope name the first entry and list all that are no patterns. -/
theorem details_badScope (h : bad.shown ≠ []) : (badScope bad).failure.details =
    [("pattern", bad.first), ("invalid", .ofTexts bad.shown)] := by
  have hsome : ¬ (bad.shown.map Json.str).isEmpty = true := by simpa using h
  calc (badScope bad).failure.details
      = if (bad.shown.map Json.str).isEmpty then [("pattern", bad.first)]
        else [("pattern", bad.first), ("invalid", .arr (bad.shown.map .str))] := rfl
    _ = [("pattern", bad.first), ("invalid", .ofTexts bad.shown)] := if_neg hsome

/-- A refused scope is told in the words in which its first entry is refused by itself. -/
theorem message_badScope (bad : BadEntries) :
    (badScope bad).failure.message = (bad.fault.failure bad.first).message := rfl

end Rejection

namespace Filter

/-- **A filter is built whole or not at all.**  If no entry of the two lists is malformed, the lists of the
filter are the patterns that the entries are read as, each where it is given first and none twice, and a
start of an idle migration sets this filter.  If an entry is malformed, the refusal names the first one,
the included entries before the excluded ones, with the reason for which it is refused by itself, and lists
all malformed entries as they are shown, in their order and with repetitions; a start is rejected with it
and leaves the snapshot as it is. -/
theorem build_whole_or_not_at_all (hidle : s.state = .idle) (included excluded : List Json)
    (now : Timestamp) :
    ((∀ entry ∈ included ++ excluded, isMalformed entry = false) →
      ∃ kept left : List Pattern,
        included.map readEntry = kept.map .ok ∧ excluded.map readEntry = left.map .ok ∧
        build included excluded = .ok ⟨kept.eraseDups, left.eraseDups⟩ ∧
        kept.eraseDups.Nodup ∧ left.eraseDups.Nodup ∧
        ∃ next, (Rule.start included excluded).apply s now = .moved next ∧
          next.state = .running ∧ next.filter = some ⟨kept.eraseDups, left.eraseDups⟩) ∧
    ((∃ entry ∈ included ++ excluded, isMalformed entry = true) →
      ∃ bad : BadEntries, build included excluded = .error bad ∧
        (included ++ excluded).find? isMalformed = some bad.first ∧
        readEntry bad.first = .error (bad.fault.failure bad.first) ∧
        bad.shown = ((included ++ excluded).filter isMalformed).map Json.displayText ∧
        (Rejection.badScope bad).failure.code = "InvalidPatternError" ∧
        (Rejection.badScope bad).failure.message = (bad.fault.failure bad.first).message ∧
        (Rejection.badScope bad).failure.details =
          [("pattern", bad.first), ("invalid", .ofTexts bad.shown)] ∧
        (Rule.start included excluded).apply s now = .rejected (.badScope bad) ∧
        ((Rule.start included excluded).apply s now).after s = s) := by
  constructor
  · intro hgood
    have hbuild := build_of_no_malformed hgood
    rw [List.forall_mem_append] at hgood
    exact ⟨readPatterns included, readPatterns excluded, map_readEntry hgood.1, map_readEntry hgood.2,
      hbuild, nodup_eraseDups _, nodup_eraseDups _, _, Snapshot.start_of_build hidle hbuild now, rfl, rfl⟩
  · intro hmalformed
    obtain ⟨bad, hbuild, hfirst, hfault, hshown⟩ := build_of_malformed hmalformed
    have hstart : (Rule.start included excluded).apply s now = .rejected (.badScope bad) :=
      Snapshot.start_of_refused hidle hbuild now
    have hsome : bad.shown ≠ [] := by
      obtain ⟨entry, hmem, hentry⟩ := hmalformed
      rw [hshown, ne_eq, List.map_eq_nil_iff, List.filter_eq_nil_iff]
      exact fun hnone => hnone entry hmem hentry
    exact ⟨bad, hbuild, hfirst, readEntry_of_error hfault, hshown, rfl, Rejection.message_badScope bad,
      Rejection.details_badScope hsome, hstart, by rw [hstart]; rfl⟩

/-- Two lists with a pattern given three times, and two with malformed entries, of which both hold one. -/
theorem build_whole_or_not_at_all_of_repeated :
    (∃ next, (Rule.start [.str " db1.a", .str "db2.*", .str "db1.a"] [.str "db1.a"]).apply
        (Snapshot.fresh default) default = .moved next ∧
      next.state = .running ∧ next.filter = some ⟨[⟨"db1", "a"⟩, ⟨"db2", "*"⟩], [⟨"db1", "a"⟩]⟩) ∧
    ∃ bad : BadEntries, bad.first = .null ∧ bad.shown = ["None", "a..b", "None"] ∧
      (Rejection.badScope bad).failure.details =
        [("pattern", .null), ("invalid", .ofTexts ["None", "a..b", "None"])] ∧
      ((Rule.start [.str "db1.a", .null] [.str "a..b", .null]).apply
        (Snapshot.fresh default) default).after (Snapshot.fresh default) = Snapshot.fresh default := by
  have hidle : (Snapshot.fresh default).state = .idle := rfl
  constructor
  · have hgood : ∀ entry ∈ [.str " db1.a", .str "db2.*", .str "db1.a"] ++ [.str "db1.a"],
        isMalformed entry = false := by decide
    obtain ⟨kept, left, _, _, hbuild, _, _, next, hstart, hstate, hfilter⟩ :=
      (build_whole_or_not_at_all hidle _ _ default).1 hgood
    have hlists : build [.str " db1.a", .str "db2.*", .str "db1.a"] [.str "db1.a"] =
      .ok ⟨[⟨"db1", "a"⟩, ⟨"db2", "*"⟩], [⟨"db1", "a"⟩]⟩ := rfl
    rw [hlists] at hbuild
    exact ⟨next, hstart, hstate, by rw [hfilter, Except.ok.inj hbuild]⟩
  · have hmalformed : ∃ entry ∈ [.str "db1.a", .null] ++ [.str "a..b", .null],
        isMalformed entry = true := ⟨.null, by simp, rfl⟩
    obtain ⟨bad, _, hfirst, _, hshown, _, _, hdetails, _, hafter⟩ :=
      (build_whole_or_not_at_all hidle _ _ default).2 hmalformed
    have hlisted : bad.shown = ["None", "a..b", "None"] := hshown.trans rfl
    have hnull : Json.null = bad.first := Option.some.inj hfirst
    rw [hlisted, ← hnull] at hdetails
    exact ⟨bad, hnull.symm, hlisted, hdetails, hafter⟩

end Filter

end Cutover
