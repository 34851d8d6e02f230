import Cutover.Proofs.FailedSignals
import Cutover.Proofs.Step

/-!
# Reports of lost history commute with everything but a finalize

The same rules are applied one after another to a snapshot twice, the second time at other times and with
reports of a loss inserted anywhere (`WithLosses`).  The decisions of the rules and the snapshots that they
lead to are the same, but for the flag of the loss and for the mark that tells of it in the details of a
finalize (`Snapshot.SameButLoss`), until a finalize that does not ask to ignore a loss is rejected because of
one.  Main statement: `loss_reports_commute`.

One rule on two snapshots that are the same but for the loss either decides the same and leaves the two the
same, or is such a finalize (`Rule.agree_or_gated`); what holds of a sequence follows by induction on the
insertion (`WithLosses.agree_or_gated`).
-/

namespace Cutover

/-- A rule and the time at which it is applied. -/
abbrev TimedRule := Timestamp × Rule

/-- Whether a rule is the report of a loss. -/
def Rule.isLossReport : Rule → Bool
  | .markHistoryLost => true
  | _ => false

/-- The second sequence has the rules of the first one in their order, each perhaps at another time, and
further reports of a loss anywhere among them. -/
inductive WithLosses : List TimedRule → List TimedRule → Prop
  | nil : WithLosses [] []
  | keep {rules longer : List TimedRule} (rule : Rule) (now later : Timestamp)
      (h : WithLosses rules longer) : WithLosses ((now, rule) :: rules) ((later, rule) :: longer)
  | insert {rules longer : List TimedRule} (now : Timestamp) (h : WithLosses rules longer) :
    WithLosses rules ((now, .markHistoryLost) :: longer)

namespace Snapshot

/-- The snapshot after rules that are applied one after another; a rejected rule keeps it. -/
def applyAll (s : Snapshot) : List TimedRule → Snapshot
  | [] => s
  | (now, rule) :: rules => ((rule.apply s now).after s).applyAll rules

/-- The decisions of rules that are applied one after another: each rule that is no report of a loss, with
its rejection if it is rejected. -/
def decisions (s : Snapshot) : List TimedRule → List (Rule × Option Rejection)
  | [] => []
  | (now, rule) :: rules =>
    let outcome := rule.apply s now
    let rest := (outcome.after s).decisions rules
    if rule.isLossReport then rest else (rule, outcome.rejection?) :: rest

end Snapshot

/-- The details of a command without the mark that a lost history was ignored, which only those of a
finalize have. -/
def unmarkedDetail (command : String) (detail : Fields) : Fields :=
  if command = "finalize" then detail.filter (·.1 ≠ "ignore_history_lost") else detail

/-- A record without its time and without that mark. -/
def Record.unmarked (record : Record) : Record :=
  { record.untimed with detail := unmarkedDetail record.command record.detail }

/-- Two snapshots are the same but for the flag of a lost history, the marks that tell of it, and times. -/
structure Snapshot.SameButLoss (s t : Snapshot) : Prop where
  state : s.state = t.state
  filter : s.filter = t.filter
  failureReason : s.failureReason = t.failureReason
  history : s.history.map (·.unmarked) = t.history.map (·.unmarked)

/-- Two outcomes of one rule on two snapshots decide the same, and lead to snapshots that are the same but for
the loss. -/
structure Outcome.AgreeButLoss (s t : Snapshot) (outcome other : Outcome) : Prop where
  rejection : outcome.rejection? = other.rejection?
  after : (outcome.after s).SameButLoss (other.after t)

/-! ### One rule -/

section Rule

variable {s t : Snapshot} {now later : Timestamp} {rule : Rule}

theorem Rule.isLossReport_iff : rule.isLossReport = true ↔ rule = .markHistoryLost := by
  cases rule <;> simp [isLossReport]

/-- The mark that a lost history was ignored is the only detail of a finalize. -/
theorem unmarkedDetail_finalize (historyLost : Bool) :
    unmarkedDetail "finalize" (if historyLost then [("ignore_history_lost", .bool true)] else []) = [] := by
  cases historyLost <;> rfl

theorem Snapshot.SameButLoss.refl (s : Snapshot) : s.SameButLoss s := ⟨rfl, rfl, rfl, rfl⟩

/-- A change of state of snapshots that are the same but for the loss. -/
theorem Snapshot.SameButLoss.moveTo (h : s.SameButLoss t) (command : String) (target : State)
    {detail other : Fields} (hdetail : unmarkedDetail command detail = unmarkedDetail command other) :
    (s.moveTo command target detail now).SameButLoss (t.moveTo command target other later) where
  state := rfl
  filter := h.filter
  failureReason := by
    rw [Snapshot.moveTo, Snapshot.moveTo, h.failureReason]
  history := by
    have hrecord : Record.unmarked ⟨command, s.state, target, now, detail⟩ =
        Record.unmarked ⟨command, t.state, target, later, other⟩ := by
      rw [Record.unmarked, Record.unmarked, hdetail, h.state]
      rfl
    rw [history_moveTo, history_moveTo, List.map_append, List.map_append, h.history, List.map_singleton,
      List.map_singleton, hrecord]

/-- A report of a loss leaves everything but the flag as it is. -/
theorem Snapshot.SameButLoss.loseHistory (h : s.SameButLoss t) (now : Timestamp) :
    s.SameButLoss ((Rule.markHistoryLost.apply t now).after t) := by
  obtain ⟨hstate, hfilter, hreason, hhistory⟩ := h
  rw [Rule.apply, Snapshot.markHistoryLost]
  split <;> exact ⟨hstate, hfilter, hreason, hhistory⟩

theorem Snapshot.SameButLoss.symm (h : s.SameButLoss t) : t.SameButLoss s :=
  ⟨h.state.symm, h.filter.symm, h.failureReason.symm, h.history.symm⟩

/-- History is lost after a rule if it was before, or if the rule reports that. -/
theorem Rule.historyLost_after (rule : Rule) (s : Snapshot) (now : Timestamp) :
    ((rule.apply s now).after s).historyLost = (s.historyLost || rule.isLossReport) := by
  cases haccepted : (rule.apply s now).isAccepted with
  | true =>
    have haccepts := Rule.accepts haccepted
    generalize rule.apply s now = outcome at haccepts
    cases haccepts with
    | loseHistory => simp [Outcome.after, Snapshot.withHistoryLost, isLossReport]
    | loseNothing hlost => simp [Outcome.after, hlost]
    | _ => simp [Outcome.after, isLossReport]
  | false =>
    have hrule : rule.isLossReport = false := by
      rw [← Bool.not_eq_true, isLossReport_iff]
      rintro rfl
      rw [isAccepted_markHistoryLost] at haccepted
      cases haccepted
    rw [Outcome.after_of_not_accepted s haccepted, hrule, Bool.or_false]

/-- A finalize begins alike on snapshots that are the same but for the loss, unless it is rejected on the
second one because of the loss. -/
theorem Snapshot.SameButLoss.beginFinalize (h : s.SameButLoss t)
    (hlost : s.historyLost = true → t.historyLost = true) (ignoreHistoryLost : Bool) :
    Outcome.AgreeButLoss s t (s.beginFinalize ignoreHistoryLost now)
      (t.beginFinalize ignoreHistoryLost later) ∨
    (ignoreHistoryLost = false ∧ (s.beginFinalize ignoreHistoryLost now).rejection? = none ∧
      (t.beginFinalize ignoreHistoryLost later).rejection? = some .historyLost) := by
  have hdetail := (unmarkedDetail_finalize s.historyLost).trans
    (unmarkedDetail_finalize t.historyLost).symm
  have hmove := @Snapshot.SameButLoss.moveTo s t now later h "finalize" .finalizing _ _ hdetail
  unfold Snapshot.beginFinalize
  generalize (if s.historyLost then _ else _) = detail at hmove ⊢
  generalize (if t.historyLost then _ else _) = other at hmove ⊢
  rw [h.state]
  by_cases hallowed : Rule.isAllowed .finalize t.state = true
  · by_cases hgate : (t.historyLost && !ignoreHistoryLost) = true
    · -- the loss is asked for on the second snapshot, and perhaps on the first one
      by_cases hboth : (s.historyLost && !ignoreHistoryLost) = true
      · left
        simp only [hallowed, hgate, hboth]
        exact ⟨rfl, h⟩
      · right
        refine ⟨by simpa using (Bool.and_eq_true_iff.mp hgate).2, ?_, ?_⟩
        · simp only [hallowed, hboth]
          by_cases hstate : t.state = .finalizing <;> simp [hstate, Outcome.rejection?]
        · simp only [hallowed, hgate]
          rfl
    · have hopen : ¬ (s.historyLost && !ignoreHistoryLost) = true := by
        intro hboth
        rw [Bool.and_eq_true] at hboth hgate
        exact hgate ⟨hlost hboth.1, hboth.2⟩
      left
      simp only [hallowed, hgate, hopen]
      by_cases hstate : t.state = .finalizing
      · simp only [hstate]
        exact ⟨rfl, h⟩
      · simp only [hstate]
        exact ⟨rfl, hmove⟩
  · left
    simp only [hallowed]
    exact ⟨rfl, h⟩

/-- A rule decides the same on snapshots that are the same but for the loss, unless it is a finalize that does
not ask to ignore a loss, and is rejected on the second one because of it. -/
theorem Rule.agree_or_gated (rule : Rule) (h : s.SameButLoss t)
    (hlost : s.historyLost = true → t.historyLost = true) :
    Outcome.AgreeButLoss s t (rule.apply s now) (rule.apply t later) ∨
      (rule = .beginFinalize false ∧ (rule.apply s now).rejection? = none ∧
        (rule.apply t later).rejection? = some .historyLost) := by
  -- a rule that asks for the state alone is allowed on both snapshots or on none
  have hmove (command : String) (target : State) (detail : Fields) :
      Outcome.AgreeButLoss s t (.moved (s.moveTo command target detail now))
        (.moved (t.moveTo command target detail later)) := ⟨rfl, h.moveTo command target rfl⟩
  have hreject (rejection : Rejection) :
      Outcome.AgreeButLoss s t (.rejected rejection) (.rejected rejection) := ⟨rfl, h⟩
  cases rule with
  | start included excluded =>
    left
    simp only [apply, Snapshot.start, h.state]
    split_ifs
    · cases Filter.build included excluded with
      | error entries => exact hreject _
      | ok filter =>
        obtain ⟨hstate, _, hreason, hhistory⟩ := (hmove "start" .running filter.payload).after
        exact ⟨rfl, hstate, rfl, hreason, hhistory⟩
    · exact hreject _
  | pause =>
    left
    simp only [apply, Snapshot.pause, h.state]
    split_ifs
    · exact hmove ..
    · exact hreject _
  | resume fromFailure =>
    left
    cases fromFailure with
    | false =>
      simp only [apply, Snapshot.resumePaused, h.state]
      split_ifs
      · exact hmove ..
      · exact hreject _
      · exact hreject _
    | true =>
      simp only [apply, Snapshot.resumeFailed, h.state, h.failureReason]
      split_ifs
      · exact hmove ..
      · exact hreject _
  | beginFinalize ignoreHistoryLost =>
    rcases h.beginFinalize hlost ignoreHistoryLost with hagree | ⟨rfl, hopen, hgate⟩
    · exact Or.inl hagree
    · exact Or.inr ⟨rfl, hopen, hgate⟩
  | completeFinalize =>
    left
    simp only [apply, Snapshot.completeFinalize, h.state]
    split_ifs
    · exact hmove ..
    · exact hreject _
  | fail reason =>
    left
    simp only [apply, Snapshot.fail, h.state]
    split_ifs
    · obtain ⟨hstate, hfilter, _, hhistory⟩ := (hmove "fail" .failed [("reason", reason)]).after
      exact ⟨rfl, hstate, hfilter, rfl, hhistory⟩
    · exact hreject _
  | markHistoryLost =>
    left
    have hfirst : (markHistoryLost.apply s now).rejection? = none :=
      Outcome.rejection?_eq_none.mpr isAccepted_markHistoryLost
    have hsecond : (markHistoryLost.apply t later).rejection? = none :=
      Outcome.rejection?_eq_none.mpr isAccepted_markHistoryLost
    exact ⟨hfirst.trans hsecond.symm, ((h.loseHistory later).symm.loseHistory now).symm⟩

end Rule

/-! ### Rules one after another -/

section Rules

variable {s t : Snapshot} {rules longer : List TimedRule}

/-- A report of a loss decides nothing. -/
theorem Snapshot.decisions_cons_of_report {now : Timestamp} {rule : Rule}
    (h : rule.isLossReport = true) :
    s.decisions ((now, rule) :: rules) = ((rule.apply s now).after s).decisions rules := if_pos h

theorem Snapshot.decisions_cons {now : Timestamp} {rule : Rule} (h : rule.isLossReport = false) :
    s.decisions ((now, rule) :: rules) =
      (rule, (rule.apply s now).rejection?) :: ((rule.apply s now).after s).decisions rules :=
  if_neg (by rw [h]; exact Bool.false_ne_true)

/-- There is one decision for each rule that is no report of a loss. -/
theorem Snapshot.map_fst_decisions (s : Snapshot) (rules : List TimedRule) :
    (s.decisions rules).map (·.1) = (rules.map (·.2)).filter (!·.isLossReport) := by
  induction rules generalizing s with
  | nil => rfl
  | cons timed rules ih =>
    obtain ⟨now, rule⟩ := timed
    cases hreport : rule.isLossReport with
    | true => rw [decisions_cons_of_report hreport, ih]; simp [hreport]
    | false => rw [decisions_cons hreport, List.map_cons, ih]; simp [hreport]

/-- History is lost after rules if it was before, or if one of them reports that. -/
theorem Snapshot.historyLost_applyAll (s : Snapshot) (rules : List TimedRule) :
    (s.applyAll rules).historyLost = (s.historyLost || rules.any (·.2.isLossReport)) := by
  induction rules generalizing s with
  | nil => rw [applyAll, List.any_nil, Bool.or_false]
  | cons timed rules ih =>
    obtain ⟨now, rule⟩ := timed
    rw [applyAll, ih, Rule.historyLost_after, List.any_cons, Bool.or_assoc]

/-- The longer sequence has as many rules more as it has more reports of a loss. -/
theorem WithLosses.length_add_countP (h : WithLosses rules longer) :
    longer.length + rules.countP (·.2.isLossReport) =
      rules.length + longer.countP (·.2.isLossReport) := by
  induction h with
  | nil => rfl
  | keep rule now later h ih =>
    rw [List.length_cons, List.length_cons, List.countP_cons, List.countP_cons]
    dsimp only
    omega
  | @insert rules longer now h ih =>
    have hreport : ((now, Rule.markHistoryLost) :: longer).countP (·.2.isLossReport) =
        longer.countP (·.2.isLossReport) + 1 := List.countP_cons_of_pos rfl
    rw [hreport, List.length_cons]
    omega

/-- Either all decisions agree and the snapshots are the same but for the loss, or the first decision that
differs is the rejection of a finalize because of the loss. -/
theorem WithLosses.agree_or_gated (h : WithLosses rules longer) (hsame : s.SameButLoss t)
    (hlost : s.historyLost = true → t.historyLost = true) :
    (t.decisions longer = s.decisions rules ∧ (s.applyAll rules).SameButLoss (t.applyAll longer)) ∨
      ∃ agreed later later', s.decisions rules = agreed ++ (.beginFinalize false, none) :: later ∧
        t.decisions longer = agreed ++ (.beginFinalize false, some .historyLost) :: later' := by
  induction h generalizing s t with
  | nil => exact Or.inl ⟨rfl, hsame⟩
  | insert now h ih =>
    -- the inserted report decides nothing, and loses no more than the flag can tell
    refine ih (hsame.loseHistory now) fun _ => ?_
    rw [Rule.historyLost_after]
    exact Bool.or_true _
  | @keep rules longer rule now later h ih =>
    rcases @Rule.agree_or_gated s t now later rule hsame hlost with hagree | ⟨rfl, hopen, hgate⟩
    · have hnext : ((rule.apply s now).after s).historyLost = true →
          ((rule.apply t later).after t).historyLost = true := by
        rw [Rule.historyLost_after, Rule.historyLost_after, Bool.or_eq_true, Bool.or_eq_true]
        exact Or.imp_left hlost
      have hrest := ih hagree.after hnext
      cases hreport : rule.isLossReport with
      | true =>
        rw [Snapshot.decisions_cons_of_report hreport, Snapshot.decisions_cons_of_report hreport]
        exact hrest
      | false =>
        rw [Snapshot.decisions_cons hreport, Snapshot.decisions_cons hreport, hagree.rejection]
        rcases hrest with ⟨hdecisions, hend⟩ | ⟨agreed, more, more', hfirst, hsecond⟩
        · left
          exact ⟨by rw [hdecisions], hend⟩
        · right
          refine ⟨(rule, (rule.apply t later).rejection?) :: agreed, more, more', ?_, ?_⟩
          · rw [hfirst]
            rfl
          · rw [hsecond]
            rfl
    · right
      refine ⟨[], ((Rule.beginFinalize false).apply s now).after s |>.decisions rules,
        ((Rule.beginFinalize false).apply t later).after t |>.decisions longer, ?_, ?_⟩
      · rw [Snapshot.decisions, hopen]
        rfl
      · rw [Snapshot.decisions, hgate]
        rfl

/-- **Reports of lost history commute with everything but a finalize.**  Reports of a loss are inserted
anywhere among rules that hold none of their own.  If every finalize among the rules asks to ignore a loss,
then every decision stays as it is, and so does the last snapshot, but for the flag of the loss, the marks
in the details of finalizes, and times.  In any case history is lost in the end exactly if it was in the
beginning or a report was inserted, and unless everything stays as it is, the first decision that differs
is that on a finalize which does not ask to ignore a loss: it was accepted, and is rejected because history
is lost. -/
theorem loss_reports_commute (h : WithLosses rules longer)
    (hrules : ∀ rule ∈ rules.map (·.2), rule ≠ .markHistoryLost) :
    ((∀ rule ∈ rules.map (·.2), rule ≠ .beginFinalize false) →
      s.decisions longer = s.decisions rules ∧ (s.applyAll rules).SameButLoss (s.applyAll longer)) ∧
    (s.decisions rules).map (·.1) = rules.map (·.2) ∧
    ((s.applyAll longer).historyLost = true ↔ s.historyLost = true ∨ rules.length < longer.length) ∧
    ((s.decisions longer = s.decisions rules ∧ (s.applyAll rules).SameButLoss (s.applyAll longer)) ∨
      ∃ agreed later later', s.decisions rules = agreed ++ (.beginFinalize false, none) :: later ∧
        s.decisions longer = agreed ++ (.beginFinalize false, some .historyLost) :: later') := by
  have hnone : ∀ timed ∈ rules, timed.2.isLossReport = false := by
    intro timed hmem
    rw [← Bool.not_eq_true, Rule.isLossReport_iff]
    exact hrules _ (List.mem_map_of_mem hmem)
  have hdecided : (s.decisions rules).map (·.1) = rules.map (·.2) := by
    rw [Snapshot.map_fst_decisions, List.filter_eq_self]
    intro rule hmem
    obtain ⟨timed, htimed, rfl⟩ := List.mem_map.mp hmem
    rw [hnone timed htimed]
    rfl
  have hcases := h.agree_or_gated (Snapshot.SameButLoss.refl s) id
  refine ⟨?_, hdecided, ?_, hcases⟩
  · intro hoverride
    refine hcases.resolve_right ?_
    rintro ⟨agreed, later, _, hfirst, _⟩
    -- a finalize that was decided on is among the rules
    have hmem : Rule.beginFinalize false ∈ rules.map (·.2) := by
      rw [← hdecided, hfirst]
      simp
    exact hoverride _ hmem rfl
  · have hcount := h.length_add_countP
    have hzero : rules.countP (·.2.isLossReport) = 0 := by
      rw [List.countP_eq_zero]
      intro timed hmem
      rw [hnone timed hmem]
      exact Bool.false_ne_true
    have hreported : longer.any (·.2.isLossReport) = true ↔ 0 < longer.countP (·.2.isLossReport) := by
      rw [List.any_eq_true, List.countP_pos_iff]
    rw [Snapshot.historyLost_applyAll, Bool.or_eq_true, hreported]
    have hmore : 0 < longer.countP (·.2.isLossReport) ↔ rules.length < longer.length := by omega
    rw [hmore]

/-- History is lost twice while a migration fails and is finalized after all, each time with the override. -/
theorem loss_reports_commute_around_cutover :
    ∃ rules longer : List TimedRule,
      (rules.map (·.2) = [.start [.str "db1.*"] [], .beginFinalize true, .fail (.str "disk full"),
          .resume true, .beginFinalize true, .completeFinalize, .pause] ∧
        longer.map (·.2) = [.start [.str "db1.*"] [], .markHistoryLost, .beginFinalize true,
          .fail (.str "disk full"), .resume true, .markHistoryLost, .beginFinalize true,
          .completeFinalize, .pause]) ∧
      (WithLosses rules longer ∧ (∀ rule ∈ rules.map (·.2), rule ≠ .markHistoryLost) ∧
        ∀ rule ∈ rules.map (·.2), rule ≠ .beginFinalize false) ∧
      ((Snapshot.fresh default).decisions longer = (Snapshot.fresh default).decisions rules ∧
        ((Snapshot.fresh default).applyAll rules).SameButLoss ((Snapshot.fresh default).applyAll longer) ∧
        ((Snapshot.fresh default).applyAll longer).historyLost = true) := by
  let rules : List TimedRule :=
    [(default, .start [.str "db1.*"] []), (default, .beginFinalize true),
      (default, .fail (.str "disk full")), (default, .resume true), (default, .beginFinalize true),
      (default, .completeFinalize), (default, .pause)]
  let longer : List TimedRule :=
    [(default, .start [.str "db1.*"] []), (.universal 1, .markHistoryLost),
      (.universal 2, .beginFinalize true), (.universal 3, .fail (.str "disk full")),
      (.universal 4, .resume true), (.universal 5, .markHistoryLost), (.universal 6, .beginFinalize true),
      (.universal 7, .completeFinalize), (.universal 8, .pause)]
  have hinserted : WithLosses rules longer :=
    .keep _ _ _ <| .insert _ <| .keep _ _ _ <| .keep _ _ _ <| .keep _ _ _ <| .insert _ <|
      .keep _ _ _ <| .keep _ _ _ <| .keep _ _ _ .nil
  have hrules : ∀ rule ∈ rules.map (·.2), rule ≠ .markHistoryLost := by simp [rules]
  have hoverride : ∀ rule ∈ rules.map (·.2), rule ≠ .beginFinalize false := by simp [rules]
  obtain ⟨hsame, _, hlost, _⟩ := loss_reports_commute (s := .fresh default) hinserted hrules
  obtain ⟨hdecisions, hend⟩ := hsame hoverride
  exact ⟨rules, longer, ⟨rfl, rfl⟩, ⟨hinserted, hrules, hoverride⟩, hdecisions, hend,
    hlost.mpr (Or.inr (by decide))⟩

end Rules

end Cutover
