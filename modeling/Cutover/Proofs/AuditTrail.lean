import Cutover.Proofs.CallLife
import Mathlib.Data.List.Forall2
import Mathlib.Data.List.Nodup

/-!
# The audit trail and the history

The audit trail tells of every record that was added to the history, once and in order, of the loss of
history if there was one, and of every signal that failed.  Main statement: `audit_trail_tells_all`.

Every event writes one line into the audit trail, or none (`Step.auditing`): a rule that is accepted adds a
record, raises the flag of a lost history or keeps both (`Accepts.effect`), and a signal fails without a
rule.  No record of a rule has a detail under the name of one of its states (`Record.IsPlain`), so the line
of a record holds all its details.
-/

namespace Cutover

open Journal ControlPlane

/-! ### What a line tells of its record -/

/-- No detail of a record has the name of another, or of one of the states between which the change
went. -/
def Record.IsPlain (record : Record) : Prop :=
  ("from_state" :: "to_state" :: record.detail.map Prod.fst).Nodup

/-- The line of a record holds its states and all its details. -/
theorem Record.IsPlain.ofRecord {record : Record} (h : record.IsPlain) :
    Audit.Event.ofRecord record =
      ⟨"transition", some record.command, some record.target.name,
        ("from_state", record.source.toJson) :: ("to_state", record.target.toJson) ::
          record.detail⟩ := by
  let states : Fields :=
    [("from_state", record.source.toJson), ("to_state", record.target.toJson)]
  have hdetails : states.update record.detail = states ++ record.detail :=
    Fields.update_eq_append h
  rw [Audit.Event.ofRecord, hdetails]
  rfl

/-! ### What is picked out of a journal -/

namespace Journal

/-- The events of one kind in the audit trail. -/
def auditOf (journal : Journal) (kind : String) : List Audit.Event :=
  journal.audit.filter (·.kind = kind)

/-- The calls whose signal has failed, each with the cause. -/
def failures (journal : Journal) : List (CallId × String) :=
  journal.filterMap fun
    | .ended call (some cause) => some (call, cause)
    | _ => none

/-- The calls that were answered with a signal error, each with the cause. -/
def signalErrors (journal : Journal) : List (CallId × String) :=
  journal.filterMap fun
    | .answered call result => result.signalError.map (call, ·)
    | _ => none

/-- An event of the audit trail tells that the signal of a call has failed. -/
def TellsFailure (journal : Journal) (event : Audit.Event) (failure : CallId × String) : Prop :=
  ∃ command state, .called failure.1 command ∈ journal ∧
    event = .signalFailed command.name state failure.2

variable {journal notes : Journal} {call : CallId} {cause : String}

attribute [simp] audit_append

theorem auditOf_append (a b : Journal) (kind : String) :
    auditOf (a ++ b) kind = auditOf a kind ++ auditOf b kind := by
  simp [auditOf]

@[simp] theorem failures_append (a b : Journal) : failures (a ++ b) = failures a ++ failures b :=
  List.filterMap_append ..

@[simp] theorem signalErrors_append (a b : Journal) :
    signalErrors (a ++ b) = signalErrors a ++ signalErrors b :=
  List.filterMap_append ..

theorem Silent.failures (h : Silent notes) : notes.failures = [] :=
  h.filterMap fun note hnote => by cases note <;> cases hnote <;> rfl

theorem Silent.signalErrors (h : Silent notes) : notes.signalErrors = [] :=
  h.filterMap fun note hnote => by cases note <;> cases hnote <;> rfl

theorem mem_failures : (call, cause) ∈ journal.failures ↔ .ended call (some cause) ∈ journal := by
  rw [failures, List.mem_filterMap]
  constructor
  · rintro ⟨note, hmem, hnote⟩
    split at hnote
    · obtain ⟨rfl, rfl⟩ := Prod.mk.inj (Option.some.inj hnote)
      exact hmem
    · cases hnote
  · intro hmem
    exact ⟨_, hmem, rfl⟩

theorem TellsFailure.mono {event : Audit.Event} {failure : CallId × String}
    (h : journal.TellsFailure event failure) (later : Journal) :
    TellsFailure (journal ++ later) event failure := by
  obtain ⟨command, state, hcalled, hevent⟩ := h
  exact ⟨command, state, List.mem_append_left _ hcalled, hevent⟩

end Journal

/-! ### What a rule tells the audit trail -/

/-- What is written into the audit trail fits what becomes of a snapshot: a record is added, or history is
lost, or neither. -/
inductive Effect (s next : Snapshot) : List Audit.Event → Prop
  | kept (hhistory : next.history = s.history) (hlost : next.historyLost = s.historyLost) :
    Effect s next []
  | recorded {record : Record} (hplain : record.IsPlain)
      (hhistory : next.history = s.history ++ [record]) (hlost : next.historyLost = s.historyLost) :
    Effect s next [.ofRecord record]
  | lost {state : State} (hhistory : next.history = s.history) (hbefore : s.historyLost = false)
      (hlost : next.historyLost = true) : Effect s next [.historyLost state]

section Rule

variable {s : Snapshot} {now : Timestamp} {rule : Rule} {outcome : Outcome}

/-- A recorded change of state writes its line. -/
theorem Effect.of_moveTo {name : String} {target : State} {detail : Fields} {next : Snapshot}
    (hhistory : next.history = (s.moveTo name target detail now).history)
    (hlost : next.historyLost = s.historyLost)
    (hplain : ("from_state" :: "to_state" :: detail.map Prod.fst).Nodup) :
    Effect s next (Journal.audit (outcomeNotes rule s (.moved next))) := by
  have haudit : Journal.audit (outcomeNotes rule s (.moved next)) =
      [.ofRecord ⟨name, s.state, target, now, detail⟩] := by
    rw [outcomeNotes, hhistory, Snapshot.history_moveTo, List.drop_left]
    rfl
  rw [haudit]
  exact .recorded hplain hhistory hlost

/-- A rule that is no report of a loss adds a record, or keeps the snapshot. -/
theorem Accepts.effect (h : Accepts s now rule outcome) (hrule : rule ≠ .markHistoryLost) :
    Effect s (outcome.after s) (Journal.audit (outcomeNotes rule s outcome)) := by
  cases h with
  | start => exact .of_moveTo rfl rfl (by simp [Filter.payload])
  | pause => exact .of_moveTo rfl rfl (by simp)
  | resume => exact .of_moveTo rfl rfl (by simp)
  | recover => exact .of_moveTo rfl rfl (by simp)
  | finalize => exact .of_moveTo rfl rfl (by split <;> simp)
  | complete => exact .of_moveTo rfl rfl (by simp)
  | fail => exact .of_moveTo rfl rfl (by simp)
  | retry => exact .kept rfl rfl
  | loseHistory => exact absurd rfl hrule
  | loseNothing => exact absurd rfl hrule

/-- The report of a loss of history raises the flag and writes its line, or finds the flag raised. -/
theorem Accepts.effect_of_loss (h : Accepts s now .markHistoryLost outcome) :
    Effect s (outcome.after s) (Journal.audit
      (outcomeNotes .markHistoryLost s outcome ++
        reportNotes .reportHistoryLost (outcome.after s) outcome)) := by
  cases h with
  | loseHistory hlost =>
    have hsame : (s.withHistoryLost now).history.drop s.history.length = [] := List.drop_length
    rw [outcomeNotes, hsame]
    exact .lost rfl hlost rfl
  | loseNothing => exact .kept rfl rfl

end Rule

namespace ControlPlane

variable {p q : ControlPlane} {now : Timestamp} {event : Event} {call : CallId} {command : Command}
  {first : Snapshot} {rule : Rule}

/-! ### What an event tells the audit trail -/

/-- What an event writes into the audit trail and which signals fail with it: what becomes of the snapshot
is written, or that a signal has failed. -/
inductive Auditing (p q : ControlPlane) : List Audit.Event → List (CallId × String) → Prop
  | rule {events : List Audit.Event} (heffect : Effect p.snapshot q.snapshot events) :
    Auditing p q events []
  | failure {call : CallId} {command : Command} {turn : Nat} {accepted : Snapshot} {state : State}
      {cause : String} (hcall : p.calls[call]? = some ⟨command, .signalling turn accepted⟩)
      (hsnapshot : q.snapshot = p.snapshot) :
    Auditing p q [.signalFailed command.name state cause] [(call, cause)]

@[simp] theorem failures_commitNotes : (p.commitNotes now call rule).failures = [] := by
  rw [commitNotes, ← List.singleton_append, failures_append, (silent_outcomeNotes _ _ _).failures]
  rfl

@[simp] theorem signalErrors_commitNotes : (p.commitNotes now call rule).signalErrors = [] := by
  rw [commitNotes, ← List.singleton_append, signalErrors_append,
    (silent_outcomeNotes _ _ _).signalErrors]
  rfl

/-- A rule that is no report of a loss tells by its own lines what becomes of the snapshot. -/
theorem effect_commitNotes (hrule : rule ≠ .markHistoryLost) :
    Effect p.snapshot ((rule.apply p.snapshot now).after p.snapshot)
      (p.commitNotes now call rule).audit := by
  rw [commitNotes]
  cases haccepted : (rule.apply p.snapshot now).isAccepted with
  | true => exact (Rule.accepts haccepted).effect hrule
  | false =>
    cases houtcome : rule.apply p.snapshot now with
    | rejected rejection => exact .kept rfl rfl
    | _ => simp [houtcome, Outcome.isAccepted] at haccepted

/-- What is told by a rule that is no report of a loss, whatever else is told that is no failure. -/
theorem Auditing.of_rule {later : Journal} (hrule : rule ≠ .markHistoryLost)
    (hnext : q.snapshot = (rule.apply p.snapshot now).after p.snapshot) (haudit : later.audit = [])
    (hfailures : later.failures = []) (herrors : later.signalErrors = []) :
    signalErrors (p.commitNotes now call rule ++ later) =
        failures (p.commitNotes now call rule ++ later) ∧
      Auditing p q (audit (p.commitNotes now call rule ++ later))
        (failures (p.commitNotes now call rule ++ later)) := by
  rw [signalErrors_append, failures_append, audit_append, signalErrors_commitNotes,
    failures_commitNotes, haudit, hfailures, herrors, List.append_nil, List.append_nil]
  refine ⟨rfl, .rule ?_⟩
  rw [hnext]
  exact effect_commitNotes hrule

/-- A command with a signal is no report of a loss. -/
theorem rule_ne_of_signal? {signal : Signal} {next : Snapshot}
    (hsignal : command.signal? next = some signal) : command.rule ≠ .markHistoryLost := by
  cases command with
  | reportHistoryLost => cases hsignal
  | _ => exact nofun

/-- A report of a loss is never rejected. -/
theorem rule_ne_of_rejected {rejection : Rejection}
    (hrule : rule.apply p.snapshot now = .rejected rejection) : rule ≠ .markHistoryLost := by
  rintro rfl
  have haccepted := @Rule.isAccepted_markHistoryLost p.snapshot now
  rw [hrule] at haccepted
  cases haccepted

/-- An event writes at most one line into the audit trail, and a call is answered with a signal error just
when its signal fails. -/
theorem Step.auditing (hstep : Step p now event q) :
    ∃ notes, q.journal = p.journal ++ notes ∧ notes.signalErrors = notes.failures ∧
      Auditing p q notes.audit notes.failures := by
  cases hstep with
  | reject hcall hrule hresult =>
    subst hresult
    exact ⟨_, rfl, Auditing.of_rule (rule_ne_of_rejected hrule) (by rw [hrule]; rfl) rfl rfl rfl⟩
  | @report call command next result hcall hrule hnext hsignal hresult =>
    subst hresult
    have hreport := silent_reportNotes command next (command.rule.apply p.snapshot now)
    cases command with
    | reportFailure reason =>
      refine ⟨_, rfl, Auditing.of_rule nofun hnext ?_ ?_ ?_⟩
      · rw [audit_append]
        cases (Command.reportFailure reason).rule.apply p.snapshot now <;> rfl
      · rw [failures_append, hreport.failures]
        rfl
      · rw [signalErrors_append, hreport.signalErrors]
        rfl
    | reportHistoryLost =>
      -- the line of the loss is written with the report
      have heffect := (Rule.accepts hrule).effect_of_loss
      rw [← hnext, audit_append] at heffect
      refine ⟨_, rfl, ?_⟩
      rw [signalErrors_append, signalErrors_append, failures_append, failures_append, hreport.failures,
        hreport.signalErrors, signalErrors_commitNotes, failures_commitNotes, audit_append,
        audit_append]
      refine ⟨rfl, .rule ?_⟩
      change Effect _ _ (_ ++ (_ ++ []))
      rw [List.append_nil]
      exact heffect
    | _ => cases hsignal
  | enter hcall hrule hnext hsignal hcome =>
    exact ⟨_, rfl, Auditing.of_rule (rule_ne_of_signal? hsignal) hnext rfl rfl rfl⟩
  | queue hcall hrule hnext hsignal hcome =>
    refine ⟨_, rfl, ?_⟩
    rw [← List.append_nil (p.commitNotes ..)]
    exact Auditing.of_rule (rule_ne_of_signal? hsignal) hnext rfl rfl rfl
  | @complete call command turn accepted next result hcall hfinal hnext hresult =>
    subst hresult
    exact ⟨_, rfl, @Auditing.of_rule p _ now call .completeFinalize _ nofun hnext rfl rfl rfl⟩
  | fail hcall hresult =>
    subst hresult
    exact ⟨_, rfl, rfl, .failure hcall rfl⟩
  | deliver hcall hfinal hresult =>
    subst hresult
    exact ⟨_, rfl, rfl, .rule (.kept rfl rfl)⟩
  | make | wake | withdraw | miss | leave | interrupt =>
    exact ⟨_, rfl, rfl, .rule (.kept rfl rfl)⟩
  | handOver => exact ⟨[], (List.append_nil _).symm, rfl, .rule (.kept rfl rfl)⟩

/-! ### What the whole audit trail tells -/

section Kinds

variable {events : List Audit.Event} {failed : List (CallId × String)}

/-- The lines of records are those of the records that are added. -/
theorem Auditing.transitions (h : Auditing p q events failed) :
    ∃ added, q.snapshot.history = p.snapshot.history ++ added ∧
      (∀ record ∈ added, record.IsPlain) ∧
      events.filter (·.kind = "transition") = added.map .ofRecord := by
  cases h with
  | failure hcall hsnapshot => exact ⟨[], by simp [hsnapshot], by simp, rfl⟩
  | rule heffect =>
    cases heffect with
    | kept hhistory hlost => exact ⟨[], by simp [hhistory], by simp, rfl⟩
    | lost hhistory hbefore hlost => exact ⟨[], by simp [hhistory], by simp, rfl⟩
    | @recorded record hplain hhistory hlost => exact ⟨[record], hhistory, by simpa, rfl⟩

/-- The line of a loss of history is written when the flag is raised. -/
theorem Auditing.losses (h : Auditing p q events failed) :
    q.snapshot.historyLost = p.snapshot.historyLost ∧
        events.filter (·.kind = "history_lost") = [] ∨
      p.snapshot.historyLost = false ∧ q.snapshot.historyLost = true ∧
        ∃ state, events.filter (·.kind = "history_lost") = [.historyLost state] := by
  cases h with
  | failure hcall hsnapshot => exact Or.inl ⟨by rw [hsnapshot], rfl⟩
  | rule heffect =>
    cases heffect with
    | kept hhistory hlost => exact Or.inl ⟨hlost, rfl⟩
    | recorded hplain hhistory hlost => exact Or.inl ⟨hlost, rfl⟩
    | lost hhistory hbefore hlost => exact Or.inr ⟨hbefore, hlost, _, rfl⟩

/-- The line of a failed signal is written when it fails, which is in progress before. -/
theorem Auditing.failures (h : Auditing p q events failed) :
    events.filter (·.kind = "engine_signal_failed") = [] ∧ failed = [] ∨
      ∃ call command turn accepted state cause,
        p.calls[call]? = some ⟨command, .signalling turn accepted⟩ ∧
        events.filter (·.kind = "engine_signal_failed") =
          [.signalFailed command.name state cause] ∧ failed = [(call, cause)] := by
  cases h with
  | failure hcall hsnapshot => exact Or.inr ⟨_, _, _, _, _, _, hcall, rfl, rfl⟩
  | rule heffect => cases heffect <;> exact Or.inl ⟨rfl, rfl⟩

end Kinds

/-- The audit trail tells of all records that were added to the history of the first snapshot, of the loss
of history if there was one, and of all signals that have failed. -/
structure Audited (first : Snapshot) (p : ControlPlane) : Prop where
  transitions : ∃ added, p.snapshot.history = first.history ++ added ∧
    (∀ record ∈ added, record.IsPlain) ∧
    p.journal.auditOf "transition" = added.map .ofRecord
  losses : p.snapshot.historyLost = first.historyLost ∧ p.journal.auditOf "history_lost" = [] ∨
    first.historyLost = false ∧ p.snapshot.historyLost = true ∧
      ∃ state, p.journal.auditOf "history_lost" = [.historyLost state]
  errors : p.journal.signalErrors = p.journal.failures
  failures : List.Forall₂ p.journal.TellsFailure (p.journal.auditOf "engine_signal_failed")
    p.journal.failures
  nodup : (p.journal.failures.map Prod.fst).Nodup

/-- The signal of a call that is in progress has not failed. -/
theorem Lives.not_mem_failures (hp : p.Lives) {turn : Nat} {accepted : Snapshot}
    (hcall : p.calls[call]? = some ⟨command, .signalling turn accepted⟩) :
    call ∉ p.journal.failures.map Prod.fst := by
  intro hmem
  obtain ⟨⟨_, cause⟩, hfailure, rfl⟩ := List.mem_map.mp hmem
  have hended := (mem_about rfl).mpr (mem_failures.mp hfailure)
  have hlife := hp.life hcall
  generalize p.journal.about _ = told at hlife hended
  cases hlife
  simp at hended

/-- A call that is known was told of when it was made. -/
theorem Lives.called_mem (hp : p.Lives) {phase : Phase}
    (hcall : p.calls[call]? = some ⟨command, phase⟩) : .called call command ∈ p.journal := by
  have htold : .called call command ∈ p.journal.about call ↔ .called call command ∈ p.journal :=
    mem_about rfl
  rw [← htold]
  have hlife := hp.life hcall
  generalize p.journal.about call = told at hlife
  cases hlife <;> simp

/-- Every event keeps the audit trail fitting. -/
theorem Step.audited (hstep : Step p now event q) (hlives : p.Lives) (hp : p.Audited first) :
    q.Audited first := by
  obtain ⟨notes, hjournal, herrors, haudit⟩ := hstep.auditing
  have hkind (kind : String) :
      q.journal.auditOf kind = p.journal.auditOf kind ++ notes.audit.filter (·.kind = kind) := by
    rw [hjournal, auditOf_append]
    rfl
  constructor
  case transitions =>
    obtain ⟨before, hbefore, hplain, htold⟩ := hp.transitions
    obtain ⟨added, hhistory, hplain', htold'⟩ := haudit.transitions
    refine ⟨before ++ added, ?_, List.forall_mem_append.mpr ⟨hplain, hplain'⟩, ?_⟩
    · rw [hhistory, hbefore, List.append_assoc]
    · rw [hkind, htold, htold', List.map_append]
  case losses =>
    rw [hkind]
    rcases haudit.losses with ⟨hsame, hnone⟩ | ⟨hbefore, hlost, state, hone⟩
    · rw [hsame, hnone, List.append_nil]
      exact hp.losses
    · -- the flag is raised once, for it was not raised before
      rcases hp.losses with ⟨hfirst, hnone⟩ | ⟨_, hraised, _⟩
      · exact Or.inr ⟨hfirst ▸ hbefore, hlost, state, by rw [hnone, hone, List.nil_append]⟩
      · rw [hbefore] at hraised
        cases hraised
  case errors => rw [hjournal, signalErrors_append, failures_append, hp.errors, herrors]
  case failures =>
    rw [hkind, hjournal, failures_append]
    refine List.rel_append (hp.failures.imp fun _ _ h => h.mono notes) ?_
    rcases haudit.failures with
      ⟨hnone, hfailed⟩ | ⟨call, command, _, _, state, cause, hcall, hone, hfailed⟩
    · rw [hnone, hfailed]
      exact .nil
    · rw [hone, hfailed]
      refine .cons ⟨command, state, ?_, rfl⟩ .nil
      exact List.mem_append_left _ (hlives.called_mem hcall)
  case nodup =>
    rw [hjournal, failures_append, List.map_append]
    rcases haudit.failures with ⟨_, hfailed⟩ | ⟨call, _, _, _, _, _, hcall, _, hfailed⟩
    · rw [hfailed, List.map_nil, List.append_nil]
      exact hp.nodup
    · rw [hfailed, List.map_singleton, ← List.concat_eq_append]
      exact hp.nodup.concat (hlives.not_mem_failures hcall)

theorem Reachable.audited (h : Reachable first p) : p.Audited first :=
  h.induction ⟨⟨[], by simp [idle], by simp, rfl⟩, Or.inl ⟨rfl, rfl⟩, rfl, .nil, .nil⟩
    fun _ _ _ _ hreach hp hstep => hstep.audited hreach.lives hp

/-- **The audit trail tells of the history**, in every run from any snapshot.  The history is that of the
first snapshot with more records, and the lines of transitions are, in order, those of these records, each
with its command, the state to which it leads, and its states and all its details.  There is one line of
a loss of history if the flag was raised in the run, and none otherwise.  The signals that have failed are
those of the calls that were answered with a signal error, each of another call, and the lines of failed
signals are, in order, those of these calls. -/
theorem audit_trail_tells_all (h : Reachable first p) :
    (∃ added, p.snapshot.history = first.history ++ added ∧
      (∀ record ∈ added, ("from_state" :: "to_state" :: record.detail.map Prod.fst).Nodup) ∧
      p.journal.auditOf "transition" = added.map fun record =>
        ⟨"transition", some record.command, some record.target.name,
          ("from_state", record.source.toJson) :: ("to_state", record.target.toJson) ::
            record.detail⟩) ∧
    (p.snapshot.historyLost = first.historyLost ∧ p.journal.auditOf "history_lost" = [] ∨
      first.historyLost = false ∧ p.snapshot.historyLost = true ∧
        ∃ state, p.journal.auditOf "history_lost" = [.historyLost state]) ∧
    p.journal.signalErrors = p.journal.failures ∧
    (p.journal.failures.map Prod.fst).Nodup ∧
    List.Forall₂ (fun event failure => ∃ command state, .called failure.1 command ∈ p.journal ∧
        event = .signalFailed command.name state failure.2)
      (p.journal.auditOf "engine_signal_failed") p.journal.failures := by
  have haudited := h.audited
  obtain ⟨added, hhistory, hplain, htold⟩ := haudited.transitions
  refine ⟨⟨added, hhistory, hplain, ?_⟩, haudited.losses, haudited.errors, haudited.nodup,
    haudited.failures⟩
  rw [htold]
  exact List.map_congr_left fun record hmem => (hplain record hmem).ofRecord

/-- The signal of a pause fails, history is lost, a finalize is rejected, one is cancelled during its signal
and one more completes. -/
theorem audit_trail_tells_all_of_troubled_migration :
    ∃ p, (idle (.fresh default)).runAll (atOnce default
        [.make (.start [] []), .run 0, .finish 0 none, .make .pause, .run 1,
          .finish 1 (some "refused"), .make .reportHistoryLost, .run 2, .make (.finalize false),
          .run 3, .make (.finalize true), .run 4, .cancel 4, .make (.finalize true), .run 5,
          .finish 5 none]) = some p ∧
      (p.snapshot.history.map (·.target) = [.running, .paused, .finalizing, .finalized] ∧
        p.snapshot.historyLost = true ∧ p.journal.failures = [(1, "refused")]) ∧
      (∃ state, p.journal.auditOf "history_lost" = [.historyLost state]) ∧
      p.journal.signalErrors = [(1, "refused")] :=
  exists_run_and
    (fun _ hrun ⟨_, hlost, hfailures⟩ => by
      obtain ⟨_, hlosses, herrors, _⟩ := audit_trail_tells_all ⟨_, hrun⟩
      obtain ⟨_, _, htold⟩ := hlosses.resolve_left (by simp [hlost, Snapshot.fresh])
      exact ⟨htold, herrors.trans hfailures⟩)
    ⟨_, rfl, rfl, rfl, rfl⟩

end ControlPlane

end Cutover
