import Cutover.Proofs.CutoverAttempt
import Cutover.Proofs.ScopeText
import Cutover.Protocol.Response

/-!
# The status tells what has happened

The answer to a status request is made from the snapshot alone.  What it shows is what the journal tells up
to that moment: whether a start was accepted and with which lists, why the migration failed last, and
whether a loss of history was reported.  Main statement: `status_is_truthful`.

Each of the three is followed through the journal by itself (`ScopeTold`, `FailureTold`,
`historyLost_told`): one kind of entry changes it, and every other keeps what is there.
-/

namespace Cutover

open Journal

namespace Note

/-- The two lists of a start that was accepted. -/
def acceptedStart? : Note → Option (List Json × List Json)
  | .applied _ (.start included excluded) _ _ outcome =>
    if outcome.isAccepted then some (included, excluded) else none
  | _ => none

/-- The reason of a failure that was accepted. -/
def acceptedFailure? : Note → Option Json
  | .applied _ (.fail reason) _ _ outcome => if outcome.isAccepted then some reason else none
  | _ => none

/-- Whether an entry tells that a loss of history was reported, for the first time or again. -/
def reportsLoss : Note → Bool
  | .applied _ .markHistoryLost _ _ outcome => outcome.isAccepted
  | _ => false

end Note

namespace Journal

/-- The lists of the starts that were accepted. -/
def acceptedStarts (journal : Journal) : List (List Json × List Json) :=
  journal.filterMap Note.acceptedStart?

/-- The reasons of the failures that were accepted, the latest last. -/
def acceptedFailures (journal : Journal) : List Json :=
  journal.filterMap Note.acceptedFailure?

variable {journal : Journal} {note : Note}

theorem acceptedStarts_concat :
    acceptedStarts (journal ++ [note]) = journal.acceptedStarts ++ note.acceptedStart?.toList := by
  cases hnote : note.acceptedStart? <;> simp [acceptedStarts, hnote]

theorem acceptedFailures_concat :
    acceptedFailures (journal ++ [note]) = journal.acceptedFailures ++ note.acceptedFailure?.toList := by
  cases hnote : note.acceptedFailure? <;> simp [acceptedFailures, hnote]

theorem acceptedStart?_of_not_accepts (h : note.accepts = false) : note.acceptedStart? = none := by
  cases note with
  | applied call rule before now outcome => cases rule <;> simp_all [Note.accepts, Note.acceptedStart?]
  | _ => rfl

theorem acceptedFailure?_of_not_accepts (h : note.accepts = false) : note.acceptedFailure? = none := by
  cases note with
  | applied call rule before now outcome => cases rule <;> simp_all [Note.accepts, Note.acceptedFailure?]
  | _ => rfl

theorem reportsLoss_of_not_accepts (h : note.accepts = false) : note.reportsLoss = false := by
  cases note with
  | applied call rule before now outcome => cases rule <;> simp_all [Note.accepts, Note.reportsLoss]
  | _ => rfl

theorem mem_acceptedFailures {reason : Json} (h : reason ∈ journal.acceptedFailures) :
    ∃ call before now outcome, .applied call (.fail reason) before now outcome ∈ journal := by
  obtain ⟨note, hmem, hnote⟩ := List.mem_filterMap.mp h
  cases note with
  | applied call rule before now outcome =>
    cases rule with
    | fail told =>
      simp only [Note.acceptedFailure?] at hnote
      split_ifs at hnote
      obtain rfl := Option.some.inj hnote
      exact ⟨call, before, now, outcome, hmem⟩
    | _ => cases hnote
  | _ => cases hnote

end Journal

/-! ### What a snapshot shows is what was told -/

/-- The scope of a snapshot is that of the only start that was accepted; there is none before it. -/
inductive ScopeTold (journal : Journal) (s : Snapshot) : Prop
  | unstarted (hstate : s.state = .idle) (hstarts : journal.acceptedStarts = [])
      (hfilter : s.filter = none)
  | started {included excluded : List Json} {filter : Filter} (hstate : s.state ≠ .idle)
      (hstarts : journal.acceptedStarts = [(included, excluded)])
      (hbuild : Filter.build included excluded = .ok filter) (hfilter : s.filter = some filter)

/-- The reason of a failure is that of the failure accepted last, as long as a migration has failed. -/
inductive FailureTold (journal : Journal) (s : Snapshot) : Prop
  | failed (hstate : s.state = .failed)
      (hlast : journal.acceptedFailures.getLast? = some s.failureReason)
  | healthy (hstate : s.state ≠ .failed) (hreason : s.failureReason = .null)

section Rule

variable {journal : Journal} {note : Note} {first s next : Snapshot}

/-- An entry that tells of no start keeps the scope. -/
theorem ScopeTold.concat (h : ScopeTold journal s) (hnote : note.acceptedStart? = none)
    (hfilter : next.filter = s.filter) (hidle : next.state = .idle ↔ s.state = .idle) :
    ScopeTold (journal ++ [note]) next := by
  have hsame : acceptedStarts (journal ++ [note]) = journal.acceptedStarts := by
    rw [acceptedStarts_concat, hnote, Option.toList_none, List.append_nil]
  cases h with
  | unstarted hstate hstarts hnone =>
    exact .unstarted (hidle.mpr hstate) (hsame.trans hstarts) (hfilter.trans hnone)
  | started hstate hstarts hbuild hsome =>
    exact .started (mt hidle.mp hstate) (hsame.trans hstarts) hbuild (hfilter.trans hsome)

/-- An entry that tells of no failure keeps the reason of the last one. -/
theorem FailureTold.concat (h : FailureTold journal s) (hnote : note.acceptedFailure? = none)
    (hstate : next.state = s.state) (hreason : next.failureReason = s.failureReason) :
    FailureTold (journal ++ [note]) next := by
  cases h with
  | failed hfailed hlast =>
    refine .failed (hstate.trans hfailed) ?_
    rw [acceptedFailures_concat, hnote, Option.toList_none, List.append_nil, hlast, hreason]
  | healthy hhealthy hnone => exact .healthy (hstate ▸ hhealthy) (hreason.trans hnone)

theorem scope_told (hidle : first.state = .idle) (hfilter : first.filter = none)
    (h : Throughout (AppliedInTurn first) journal) :
    ScopeTold journal (first.afterAll journal.applications) := by
  refine afterAll_induction (motive := ScopeTold) (.unstarted hidle rfl hfilter) ?_ ?_ h
  · intro journal s call rule now outcome hbefore haccepts _
    cases haccepts with
    | start hstate hbuild =>
      -- no start was accepted before
      cases hbefore with
      | unstarted _ hstarts _ =>
        refine .started nofun ?_ hbuild rfl
        rw [acceptedStarts_concat, hstarts]
        rfl
      | started hstarted => exact absurd hstate hstarted
    | finalize hstate =>
      refine hbefore.concat rfl rfl ?_
      rcases hstate with hstate | hstate <;> simp [Outcome.after, hstate]
    | fail hstate =>
      refine hbefore.concat rfl rfl ?_
      rcases hstate with hstate | hstate | hstate <;> simp [Outcome.after, hstate]
    | retry => exact hbefore.concat rfl rfl Iff.rfl
    | loseHistory => exact hbefore.concat rfl rfl Iff.rfl
    | loseNothing => exact hbefore.concat rfl rfl Iff.rfl
    | pause hstate | resume hstate | recover hstate | complete hstate =>
      exact hbefore.concat rfl rfl (by simp [Outcome.after, hstate])
  · intro journal s note hbefore hnote
    exact hbefore.concat (acceptedStart?_of_not_accepts hnote) rfl Iff.rfl

theorem failure_told (hhealthy : first.state ≠ .failed) (hreason : first.failureReason = .null)
    (h : Throughout (AppliedInTurn first) journal) :
    FailureTold journal (first.afterAll journal.applications) := by
  refine afterAll_induction (motive := FailureTold) (.healthy hhealthy hreason) ?_ ?_ h
  · intro journal s call rule now outcome hbefore haccepts _
    cases haccepts with
    | fail =>
      refine .failed rfl ?_
      rw [acceptedFailures_concat]
      exact List.getLast?_concat
    | retry => exact hbefore.concat rfl rfl rfl
    | loseHistory => exact hbefore.concat rfl rfl rfl
    | loseNothing => exact hbefore.concat rfl rfl rfl
    | _ => exact .healthy nofun rfl
  · intro journal s note hbefore hnote
    exact hbefore.concat (acceptedFailure?_of_not_accepts hnote) rfl rfl

/-- History is lost once a loss was reported. -/
theorem historyLost_told (hfirst : first.historyLost = false)
    (h : Throughout (AppliedInTurn first) journal) :
    (first.afterAll journal.applications).historyLost = journal.any (·.reportsLoss) := by
  refine afterAll_induction (motive := fun journal s => s.historyLost = journal.any (·.reportsLoss))
    hfirst ?_ ?_ h
  · intro journal s call rule now outcome hbefore haccepts _
    rw [List.any_append, ← hbefore]
    cases haccepts with
    | loseHistory => exact (Bool.or_true _).symm
    | loseNothing hlost => exact hlost.trans (Bool.or_true _).symm
    | _ => exact (Bool.or_false _).symm
  · intro journal s note hbefore hnote
    rw [List.any_append, ← hbefore, List.any_cons, reportsLoss_of_not_accepts hnote]
    exact (Bool.or_false _).symm

end Rule

/-! ### The calls that were told of -/

section Life

variable {call : CallId} {c : Option Call} {told : Journal} {rule : Rule} {before : Snapshot}
  {now : Timestamp} {outcome : Outcome}

/-- A rule that was applied for a call is that of its command, or the completion of a finalize. -/
theorem Life.exists_command (h : Life call c told)
    (hmem : .applied call rule before now outcome ∈ told) (hrule : rule ≠ .completeFinalize) :
    ∃ command phase, c = some ⟨command, phase⟩ ∧ command.rule = rule := by
  cases h with
  | unmade => cases hmem
  | _ => exact ⟨_, _, rfl, by simp_all⟩

/-- The report of a loss has been answered once its rule was applied, which accepts it. -/
theorem Life.any_reportsLoss {phase : Phase} (h : Life call (some ⟨.reportHistoryLost, phase⟩) told) :
    told.any (·.reportsLoss) = true ↔ ∃ result, phase = .answered result := by
  cases h with
  | made => simp [Note.reportsLoss]
  | rejected hrule hout =>
    have haccepted := congrArg Outcome.isAccepted (hrule.symm.trans hout)
    rw [Command.rule, Rule.isAccepted_markHistoryLost] at haccepted
    cases haccepted
  | reported hrule hout => simp [Note.reportsLoss, Command.rule, hout]
  | withdrawn => simp [Note.reportsLoss]
  | waiting _ _ hsignal | signalling _ _ hsignal | failed _ _ hsignal | delivered _ _ hsignal
  | completed _ _ hsignal | left _ _ hsignal | interrupted _ _ hsignal => cases hsignal

end Life

namespace ControlPlane

variable {p : ControlPlane} {start : Timestamp}

/-- A rule that was applied is that of a call, or the completion of a finalize. -/
theorem Lives.exists_call (h : p.Lives) {call : CallId} {rule : Rule} {before : Snapshot}
    {now : Timestamp} {outcome : Outcome} (hmem : .applied call rule before now outcome ∈ p.journal)
    (hrule : rule ≠ .completeFinalize) :
    ∃ command phase, p.calls[call]? = some ⟨command, phase⟩ ∧ command.rule = rule :=
  (h call).exists_command ((mem_about rfl).mpr hmem) hrule

/-- A loss of history was reported if a report of it has been answered. -/
theorem Lives.any_reportsLoss (h : p.Lives) : p.journal.any (·.reportsLoss) = true ↔
    ∃ (call : CallId) (result : CommandResult),
      p.calls[call]? = some ⟨.reportHistoryLost, .answered result⟩ := by
  constructor
  · intro hany
    obtain ⟨note, hmem, hnote⟩ := List.any_eq_true.mp hany
    cases note with
    | applied call rule before now outcome =>
      cases rule with
      | markHistoryLost =>
        obtain ⟨command, phase, hcall, hrule⟩ := h.exists_call hmem nofun
        cases command with
        | reportHistoryLost =>
          have htold : List.any (p.journal.about call) (·.reportsLoss) = true :=
            List.any_eq_true.mpr ⟨_, (mem_about rfl).mpr hmem, hnote⟩
          obtain ⟨result, rfl⟩ := (h.life hcall).any_reportsLoss.mp htold
          exact ⟨call, result, hcall⟩
        | _ => cases hrule
      | _ => cases hnote
    | _ => cases hnote
  · rintro ⟨call, result, hcall⟩
    obtain ⟨note, hmem, hnote⟩ :=
      List.any_eq_true.mp ((h.life hcall).any_reportsLoss.mpr ⟨result, rfl⟩)
    exact List.any_eq_true.mpr ⟨note, List.mem_of_mem_filter hmem, hnote⟩

end ControlPlane

/-! ### The wire form of the status -/

namespace StatusResponse

variable {s : Snapshot} {r : StatusResponse}

/-- The status can be told if the reason of a failure is a text, or there is none. -/
theorem ofSnapshot_eq_ok {error : Option String} (h : s.failureReason = .ofText? error) :
    ofSnapshot s = .ok
      { state := s.state
        error := error
        historyLost := s.historyLost
        included := (s.filter.map fun f => f.included.map (·.text)).getD []
        excluded := (s.filter.map fun f => f.excluded.map (·.text)).getD []
        updatedAt := some s.updatedAt } := by
  rw [ofSnapshot, h]
  cases error <;> rfl

/-- The members of the wire form.  That of the error is there if the status tells an error. -/
theorem get?_wire (r : StatusResponse) :
    r.wire.get? "state" = some (.str r.state.name) ∧ r.wire.get? "error" = r.error.map .str ∧
      r.wire.get? "historyLost" = some (.bool r.historyLost) ∧
      r.wire.get? "includeNamespaces" = some (.ofTexts r.included) ∧
      r.wire.get? "excludeNamespaces" = some (.ofTexts r.excluded) := by
  obtain ⟨ok, state, error, historyLost, included, excluded, updatedAt⟩ := r
  cases error <;>
    simp [wire, fields, Fields.given, Json.get?, Json.fields?, Fields.get?, List.find?, okNames,
      stateNames, errorNames, historyLostNames, includeNames, excludeNames, updatedAtNames,
      State.toJson, Json.ofText?, Json.ofTexts]

end StatusResponse

/-- A state is known by its name. -/
theorem State.name_inj {state other : State} : state.name = other.name ↔ state = other := by
  refine ⟨fun h => ?_, congrArg name⟩
  rw [← Option.some_inj, ← ofName?_name state, ← ofName?_name other, h]

namespace ControlPlane

variable {p : ControlPlane} {start : Timestamp}

/-- The reason of a failure is a text if every reason that was reported is one. -/
theorem Reachable.exists_error (h : Reachable (.fresh start) p)
    (htexts : ∀ (call : CallId) reason phase,
      p.calls[call]? = some ⟨.reportFailure reason, phase⟩ → ∃ text, reason = .str text) :
    ∃ error, p.snapshot.failureReason = .ofText? error ∧
      (error.isSome = true ↔ p.snapshot.state = .failed) ∧
      (p.snapshot.state = .failed → error.map .str = p.journal.acceptedFailures.getLast?) := by
  have htold := failure_told (by nofun) rfl h.linear.inTurn
  rw [← h.linear.snapshot] at htold
  cases htold with
  | healthy hstate hreason =>
    exact ⟨none, hreason, by simp [hstate], fun hfailed => absurd hfailed hstate⟩
  | failed hstate hlast =>
    -- the reason is that of a call, which has reported a text
    obtain ⟨call, _, _, _, hmem⟩ := mem_acceptedFailures (List.mem_of_getLast? hlast)
    obtain ⟨command, phase, hcall, hrule⟩ := h.lives.exists_call hmem nofun
    cases command with
    | reportFailure reason =>
      obtain ⟨text, rfl⟩ := htexts call reason phase hcall
      have hsame : Json.str text = p.snapshot.failureReason := Rule.fail.inj hrule
      refine ⟨some text, hsame.symm, by simp [hstate], fun _ => ?_⟩
      rw [hlast, ← hsame]
      rfl
    | _ => cases hrule

/-- **The status tells the truth at every moment**, in every run of a migration that begins fresh and whose
failures are reported with texts.  The state is idle, and both lists of namespaces are empty, as long as no
start was accepted; from then on the lists are those of that start, each entry trimmed and given where it
occurs first.  An error is told while the migration has failed, and it is the reason of the failure
accepted last.  History is lost once a report of the loss has been answered. -/
theorem status_is_truthful (h : Reachable (.fresh start) p)
    (htexts : ∀ (call : CallId) reason phase,
      p.calls[call]? = some ⟨.reportFailure reason, phase⟩ → ∃ text, reason = .str text) :
    ∃ response, StatusResponse.ofSnapshot p.snapshot = .ok response ∧
      (response.wire.get? "state" = some (.str "idle") ↔ p.journal.acceptedStarts = []) ∧
      (p.journal.acceptedStarts = [] →
        response.wire.get? "includeNamespaces" = some (.arr []) ∧
        response.wire.get? "excludeNamespaces" = some (.arr [])) ∧
      (∀ included excluded, (included, excluded) ∈ p.journal.acceptedStarts →
        ∃ kept left : List String, included = kept.map .str ∧ excluded = left.map .str ∧
          response.wire.get? "includeNamespaces" =
            some (.ofTexts (kept.map Text.trimText).eraseDups) ∧
          response.wire.get? "excludeNamespaces" =
            some (.ofTexts (left.map Text.trimText).eraseDups)) ∧
      ((response.wire.get? "error").isSome = true ↔
        response.wire.get? "state" = some (.str "failed")) ∧
      (response.wire.get? "state" = some (.str "failed") →
        response.wire.get? "error" = p.journal.acceptedFailures.getLast?) ∧
      ∃ lost, response.wire.get? "historyLost" = some (.bool lost) ∧
        (lost = true ↔ ∃ (call : CallId) (result : CommandResult),
          p.calls[call]? = some ⟨.reportHistoryLost, .answered result⟩) := by
  obtain ⟨error, hreason, hfailed, hlast⟩ := h.exists_error htexts
  have hscope := scope_told rfl rfl h.linear.inTurn
  have hlost := historyLost_told rfl h.linear.inTurn
  rw [← h.linear.snapshot] at hscope hlost
  refine ⟨_, StatusResponse.ofSnapshot_eq_ok hreason, ?_⟩
  obtain ⟨hstate, herror, hhistory, hincluded, hexcluded⟩ := StatusResponse.get?_wire
    { state := p.snapshot.state
      error := error
      historyLost := p.snapshot.historyLost
      included := (p.snapshot.filter.map fun f => f.included.map (·.text)).getD []
      excluded := (p.snapshot.filter.map fun f => f.excluded.map (·.text)).getD []
      updatedAt := some p.snapshot.updatedAt }
  have hnamed (state : State) : some (Json.str p.snapshot.state.name) = some (.str state.name) ↔
      p.snapshot.state = state := by
    rw [Option.some_inj, Json.str.injEq, State.name_inj]
  -- the wire form names the state, so it is compared by name
  have hidle : some (Json.str p.snapshot.state.name) = some (.str "idle") ↔
      p.snapshot.state = .idle := hnamed .idle
  have hbroken : some (Json.str p.snapshot.state.name) = some (.str "failed") ↔
      p.snapshot.state = .failed := hnamed .failed
  rw [hstate, herror, hhistory, hincluded, hexcluded, hidle, hbroken, Option.isSome_map]
  refine ⟨?_, ?_, ?_, hfailed, hlast, _, rfl, ?_⟩
  · cases hscope with
    | unstarted hstate hstarts _ => exact iff_of_true hstate hstarts
    | started hstate hstarts => exact iff_of_false hstate (by rw [hstarts]; nofun)
  · intro hnone
    cases hscope with
    | unstarted _ _ hfilter => rw [hfilter]; exact ⟨rfl, rfl⟩
    | started _ hstarts => cases hstarts.symm.trans hnone
  · intro included excluded hmem
    cases hscope with
    | unstarted _ hstarts => rw [hstarts] at hmem; cases hmem
    | started _ hstarts hbuild hfilter =>
      -- the start is the only one
      rw [hstarts, List.mem_singleton] at hmem
      obtain ⟨rfl, rfl⟩ := Prod.mk.inj hmem
      obtain ⟨kept, left, hkept, hleft, hincluded, hexcluded⟩ := Filter.texts_of_build hbuild
      refine ⟨kept, left, hkept, hleft, ?_, ?_⟩
      · rw [hfilter, ← hincluded]; rfl
      · rw [hfilter, ← hexcluded]; rfl
  · rw [hlost]
    exact h.lives.any_reportsLoss

/-- A migration fails, is resumed, loses history and fails again, while the signal of its resume is in
flight and a pause waits behind it. -/
theorem status_is_truthful_of_failed_migration :
    ∃ p, (idle (.fresh default)).runAll (atOnce default
        [.make (.start [.str " db1.* ", .str "db1.*"] [.str "db1.log"]), .run 0, .finish 0 none,
          .make (.reportFailure (.str "disk full")), .run 1, .make (.resume true), .run 2,
          .make .pause, .run 3, .make .reportHistoryLost, .run 4,
          .make (.reportFailure (.str "network")), .run 5]) = some p ∧
      (p.calls.map (·.command) =
          [.start [.str " db1.* ", .str "db1.*"] [.str "db1.log"], .reportFailure (.str "disk full"),
            .resume true, .pause, .reportHistoryLost, .reportFailure (.str "network")] ∧
        ([.str " db1.* ", .str "db1.*"], [.str "db1.log"]) ∈ p.journal.acceptedStarts ∧
        p.journal.acceptedFailures.getLast? = some (.str "network") ∧
        ∃ result, p.calls[4]? = some ⟨.reportHistoryLost, .answered result⟩) ∧
      ∃ response, StatusResponse.ofSnapshot p.snapshot = .ok response ∧
        response.wire.get? "includeNamespaces" = some (.arr [.str "db1.*"]) ∧
        response.wire.get? "excludeNamespaces" = some (.arr [.str "db1.log"]) ∧
        (response.wire.get? "state" = some (.str "failed") →
          response.wire.get? "error" = some (.str "network")) ∧
        response.wire.get? "historyLost" = some (.bool true) := by
  refine exists_run_and ?_ ⟨_, rfl, rfl, .head _, rfl, _, rfl⟩
  rintro p hrun ⟨hcommands, hstart, hfailure, hloss⟩
  have htexts (call : CallId) (reason : Json) (phase : Phase)
      (hcall : p.calls[call]? = some ⟨.reportFailure reason, phase⟩) : ∃ text, reason = .str text := by
    have hmem := List.mem_map_of_mem (f := Call.command) (List.mem_of_getElem? hcall)
    rw [hcommands] at hmem
    simp only [List.mem_cons, reduceCtorEq, Command.reportFailure.injEq, List.not_mem_nil, or_false,
      false_or] at hmem
    rcases hmem with rfl | rfl <;> exact ⟨_, rfl⟩
  obtain ⟨response, hresponse, _, _, hlists, _, herror, lost, hlost, hiff⟩ :=
    status_is_truthful ⟨_, hrun⟩ htexts
  obtain ⟨kept, left, hkept, hleft, hincluded, hexcluded⟩ := hlists _ _ hstart
  have hinj := List.map_injective_iff.mpr fun _ _ => Json.str.inj
  obtain rfl : [" db1.* ", "db1.*"] = kept := hinj hkept
  obtain rfl : ["db1.log"] = left := hinj hleft
  refine ⟨response, hresponse, hincluded, hexcluded, fun hfailed => (herror hfailed).trans hfailure, ?_⟩
  rw [hlost, hiff.mpr ⟨4, hloss⟩]

end ControlPlane

end Cutover
