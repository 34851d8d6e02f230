import Cutover.Proofs.CutoverAttempt

/-!
# The override of a lost history on record

A finalize is accepted although history was lost if it asks to ignore that.  The record with which the
migration comes to finalize says so; a finalize that asks for the cutover once more adds no record.  So the
override is on record exactly if history was already lost when the migration came to finalize, and not if
history was lost in the course of the attempt.  Main statement: `override_on_record_iff`.

While a migration finalizes, its last record is the one of its coming to finalize, and it fits the entry of
the journal with which the attempt began (`AttemptOnRecord`): only that entry leads into the finalizing
state, and whatever else happens in this state adds no record.
-/

namespace Cutover

open Journal

/-- The records since the last one that leads to a state, with this one; none if there is no such record. -/
def Record.since (target : State) : List Record → List Record
  | [] => []
  | record :: rest =>
    if rest.any (·.target = target) then since target rest
    else if record.target = target then record :: rest
    else []

/-- Whether a record tells that a lost history was ignored. -/
def Record.ignoresHistoryLost (record : Record) : Bool :=
  match record.detail.get? "ignore_history_lost" with
  | some (.bool true) => true
  | _ => false

/-- Whether history was already lost when the migration last came to finalize. -/
def Journal.beganLost (journal : Journal) : Bool :=
  match journal.attempt with
  | .applied _ _ before _ _ :: _ => before.historyLost
  | _ => false

theorem Record.since_concat {target : State} {history : List Record} {record : Record}
    (h : record.target = target) : since target (history ++ [record]) = [record] := by
  induction history with
  | nil => simp [since, h]
  | cons first rest ih =>
    rw [List.cons_append, since, if_pos (by simp [h]), ih]

namespace Journal

variable {first : Snapshot} {journal : Journal} {note : Note} {asks : Note → Bool}

/-- An entry of a kind is all that has been told since the last one. -/
theorem since_concat_of_asks (h : asks note = true) : since asks (journal ++ [note]) = [note] :=
  since_append (by simp [h])

/-- Any other entry is added to what has been told since the last one. -/
theorem since_concat_of_not_asks (h : asks note = false) :
    since asks (journal ++ [note]) = since asks journal ++ [note] := by
  induction journal with
  | nil => rfl
  | cons earlier rest ih =>
    rw [List.cons_append, since, since, List.any_append, List.any_cons, h, List.any_nil,
      Bool.or_false, Bool.or_false, ih]
    split_ifs <;> rfl

/-- The last record of a snapshot and the entry with which the current attempt began fit: the record leads
to the finalizing state, and it tells that a lost history was ignored if history was lost then. -/
def AttemptOnRecord (s : Snapshot) (journal : Journal) : Prop :=
  ∃ older record call rule before now outcome later,
    s.history = older ++ [record] ∧ record.target = .finalizing ∧
    journal.attempt = .applied call rule before now outcome :: later ∧
    record.ignoresHistoryLost = before.historyLost

theorem AttemptOnRecord.concat {s next : Snapshot} (h : AttemptOnRecord s journal)
    (hhistory : next.history = s.history) (hnote : note.enters .finalizing = false) :
    AttemptOnRecord next (journal ++ [note]) := by
  obtain ⟨older, record, call, rule, before, now, outcome, later, hrecord, htarget, hattempt, hlost⟩ := h
  refine ⟨older, record, call, rule, before, now, outcome, later ++ [note], hhistory.trans hrecord,
    htarget, ?_, hlost⟩
  rw [attempt] at hattempt ⊢
  rw [since_concat_of_not_asks hnote, hattempt, List.cons_append]

/-- While a migration that began in another state finalizes, its attempt is on record. -/
theorem attemptOnRecord (hfirst : first.state ≠ .finalizing)
    (h : Throughout (AppliedInTurn first) journal)
    (hstate : (first.afterAll journal.applications).state = .finalizing) :
    AttemptOnRecord (first.afterAll journal.applications) journal := by
  induction journal using List.reverseRecOn with
  | nil => exact absurd hstate hfirst
  | append_singleton journal note ih =>
    have hbefore := (throughout_concat.mp h).1
    rcases afterAll_concat_cases h with ⟨call, rule, current, now, outcome, rfl, haccepted⟩ |
      ⟨hnone, hsame⟩
    · obtain ⟨rfl, haccepts, hafter⟩ := afterAll_applied h haccepted
      rw [hafter] at hstate ⊢
      cases haccepts with
      | finalize hsource =>
        refine ⟨_, _, call, _, _, now, _, [], rfl, rfl, since_concat_of_asks ?_, ?_⟩
        · rcases hsource with hsource | hsource <;> simp [Note.enters, hsource]
        · cases hlost : (first.afterAll (applications journal)).historyLost <;> rfl
      | retry hfinalizing => exact (ih hbefore hfinalizing).concat rfl rfl
      | loseNothing => exact (ih hbefore hstate).concat rfl rfl
      | loseHistory hlost =>
        have hfinalizing : (first.afterAll (applications journal)).state = .finalizing := hstate
        exact (ih hbefore hfinalizing).concat rfl (by simp [Note.enters, hfinalizing])
      | _ => cases hstate
    · rw [hsame] at hstate ⊢
      exact (ih hbefore hstate).concat rfl (hnone _)

/-- While a migration finalizes, its records say whether history was lost when it came to do so. -/
theorem AttemptOnRecord.any_ignoresHistoryLost {s : Snapshot} (h : AttemptOnRecord s journal) :
    (Record.since .finalizing s.history).any (·.ignoresHistoryLost) = journal.beganLost := by
  obtain ⟨older, record, call, rule, before, now, outcome, later, hrecord, htarget, hattempt, hlost⟩ := h
  rw [hrecord, Record.since_concat htarget, beganLost, hattempt, List.any_cons, hlost, List.any_nil,
    Bool.or_false]

end Journal

namespace ControlPlane

variable {p : ControlPlane} {start now : Timestamp} {current : Snapshot} {before : Journal}
  {call : CallId} {outcome : Outcome}

/-- **The override of a lost history is on record exactly if history was lost when the migration came to
finalize**, in every run of a migration that begins fresh.  A finalize that is accepted although history
was lost asks to ignore that, and the records since the migration last came to finalize say so if history
was lost then; they always do if it is this finalize by which the migration came to finalize.  A finalize
that asks for the cutover once more changes nothing. -/
theorem override_on_record_iff (h : Reachable (.fresh start) p) {ignoreHistoryLost : Bool}
    (hwritten : before ++ [.applied call (.beginFinalize ignoreHistoryLost) current now outcome] <+:
      p.journal)
    (haccepted : outcome.isAccepted = true) (hlost : current.historyLost = true) :
    ignoreHistoryLost = true ∧
    ((Record.since .finalizing (outcome.after current).history).any (·.ignoresHistoryLost) = true ↔
      beganLost (before ++ [.applied call (.beginFinalize ignoreHistoryLost) current now outcome]) =
        true) ∧
    (current.state ≠ .finalizing →
      (Record.since .finalizing (outcome.after current).history).any (·.ignoresHistoryLost) = true) ∧
    (current.state = .finalizing → outcome = .kept) := by
  have hinTurn := h.linear.inTurn.mono hwritten
  obtain ⟨_, haccepts, hafter⟩ := afterAll_applied hinTurn haccepted
  have hfinalizing := state_of_finalize? hinTurn
    (finalize?_eq_some.mpr ⟨_, _, _, _, rfl, haccepted⟩)
  have hrecord := (attemptOnRecord (by simp [Snapshot.fresh]) hinTurn
    hfinalizing).any_ignoresHistoryLost
  rw [hafter] at hrecord
  refine ⟨?_, by rw [hrecord], fun hstate => ?_, fun hstate => ?_⟩
  · cases haccepts with
    | finalize hsource hignored => exact hignored hlost
    | retry hsource hignored => exact hignored hlost
  · -- the finalize is the entry with which the attempt began
    have henters : (Note.applied call (.beginFinalize ignoreHistoryLost) current now
        outcome).enters .finalizing = true := by
      cases haccepts with
      | finalize hsource => simp [Note.enters, hstate]
      | retry hsource => exact absurd hsource hstate
    rw [hrecord, beganLost, attempt, since_concat_of_asks henters]
    exact hlost
  · cases haccepts with
    | finalize hsource => rcases hsource with hsource | hsource <;> simp [hsource] at hstate
    | retry => rfl

/-- History is lost before the migration is finalized in spite of it.  The cutover fails and is asked for
once more, and the record of the first finalize tells of the override. -/
theorem override_on_record_of_retried_cutover :
    ∃ p, (idle (.fresh default)).runAll (atOnce default
        [.make (.start [] []), .run 0, .finish 0 none, .make .reportHistoryLost, .run 1,
          .make (.finalize true), .run 2, .finish 2 (some "refused"), .make (.finalize true),
          .run 3]) = some p ∧
      (∃ current, p.journal.take 22 ++
          [.applied 3 (.beginFinalize true) current default .kept] <+: p.journal ∧
        current.historyLost = true ∧ beganLost (p.journal.take 22 ++
          [.applied 3 (.beginFinalize true) current default .kept]) = true ∧
        (Outcome.kept.after current).history = p.snapshot.history) ∧
      (Record.since .finalizing p.snapshot.history).any (·.ignoresHistoryLost) = true :=
  exists_run_and
    (fun _ hrun ⟨_, hwritten, hlost, hbegan, hhistory⟩ =>
      hhistory ▸ (override_on_record_iff ⟨_, hrun⟩ hwritten rfl hlost).2.1.mpr hbegan)
    ⟨_, rfl, _, ⟨_, rfl⟩, rfl, rfl, rfl⟩

/-- History is lost after a cutover has failed, and the cutover is asked for once more in spite of that.
The migration becomes finalized, and no record tells of the override. -/
theorem override_not_on_record :
    ∃ p, (idle (.fresh default)).runAll (atOnce default
        [.make (.start [] []), .run 0, .finish 0 none, .make (.finalize false), .run 1,
          .finish 1 (some "refused"), .make .reportHistoryLost, .run 2, .make (.finalize true), .run 3,
          .finish 3 none]) = some p ∧
      (∃ current, p.journal.take 22 ++
          [.applied 3 (.beginFinalize true) current default .kept] <+: p.journal ∧
        current.historyLost = true ∧
        (Record.since .finalizing (Outcome.kept.after current).history).any
          (·.ignoresHistoryLost) = false) ∧
      p.snapshot.state = .finalized ∧ p.snapshot.history.any (·.ignoresHistoryLost) = false :=
  ⟨_, rfl, ⟨_, ⟨_, rfl⟩, rfl, rfl⟩, rfl, rfl⟩

end ControlPlane

end Cutover
