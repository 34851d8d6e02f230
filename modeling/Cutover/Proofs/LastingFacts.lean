import Cutover.Proofs.HistoryPath

/-!
# What is known of a migration lasts

From one moment of a run to a later one, records are only added to the history, a lost history stays lost,
and the scope of a migration that has left the idle state stays as it is, as does the state of having left
it.  Of a finalized migration nothing changes any more but that its history may come to be lost.  Main
statement: `committed_facts_last`.

What lasts is one relation between two snapshots (`Snapshot.Upholds`).  It holds between a snapshot and what
any rule makes of it (`Accepts.upholds`), whatever the rule finds, so it holds along every run.
-/

namespace Cutover

/-- What was known of a migration by the snapshot `s` still holds by the snapshot `t`. -/
structure Snapshot.Upholds (s t : Snapshot) : Prop where
  history : s.history <+: t.history
  historyLost : s.historyLost = true → t.historyLost = true
  filter : s.state ≠ .idle → t.filter = s.filter
  started : s.state ≠ .idle → t.state ≠ .idle
  /-- A finalized migration stays as it is, apart from the loss of history and the time of that. -/
  finalized : s.state = .finalized → t.state = .finalized ∧ t.failureReason = s.failureReason ∧
    t.history = s.history

namespace Snapshot

variable {s t u : Snapshot}

theorem Upholds.refl (s : Snapshot) : s.Upholds s :=
  ⟨List.prefix_rfl, id, fun _ => rfl, id, fun h => ⟨h, rfl, rfl⟩⟩

theorem Upholds.trans (h : s.Upholds t) (hlater : t.Upholds u) : s.Upholds u where
  history := h.history.trans hlater.history
  historyLost hlost := hlater.historyLost (h.historyLost hlost)
  filter hstate := (hlater.filter (h.started hstate)).trans (h.filter hstate)
  started hstate := hlater.started (h.started hstate)
  finalized hstate := by
    obtain ⟨hfinalized, hreason, hhistory⟩ := h.finalized hstate
    obtain ⟨hfinalized', hreason', hhistory'⟩ := hlater.finalized hfinalized
    exact ⟨hfinalized', hreason'.trans hreason, hhistory'.trans hhistory⟩

/-- A recorded change of state to another than the idle one upholds what is known, unless the migration is
finalized. -/
theorem Upholds.of_moveTo {command : String} {target : State} {detail : Fields} {now : Timestamp}
    (hhistory : t.history = (s.moveTo command target detail now).history)
    (hlost : t.historyLost = s.historyLost) (hfilter : s.state ≠ .idle → t.filter = s.filter)
    (htarget : t.state ≠ .idle) (hstate : s.state ≠ .finalized) : s.Upholds t where
  history := by
    rw [hhistory, history_moveTo]
    exact List.prefix_append ..
  historyLost h := hlost.trans h
  filter := hfilter
  started _ := htarget
  finalized h := absurd h hstate

/-- The loss of history changes nothing else that is known. -/
theorem upholds_withHistoryLost (s : Snapshot) (now : Timestamp) :
    s.Upholds (s.withHistoryLost now) :=
  ⟨List.prefix_rfl, fun _ => rfl, fun _ => rfl, id, fun h => ⟨h, rfl, rfl⟩⟩

end Snapshot

/-- Every rule upholds what is known of a migration. -/
theorem Accepts.upholds {s : Snapshot} {now : Timestamp} {rule : Rule} {outcome : Outcome}
    (h : Accepts s now rule outcome) : s.Upholds (outcome.after s) := by
  have hmove {command : String} {target : State} {detail : Fields} (htarget : target ≠ .idle)
      (hstate : s.state ≠ .finalized) : s.Upholds (s.moveTo command target detail now) :=
    .of_moveTo rfl rfl (fun _ => rfl) htarget hstate
  cases h with
  | start hidle => exact .of_moveTo rfl rfl (absurd hidle ·) nofun (by simp [hidle])
  | pause hrunning => exact hmove (by decide) (by simp [hrunning])
  | resume hpaused => exact hmove (by decide) (by simp [hpaused])
  | recover hfailed => exact hmove (by decide) (by simp [hfailed])
  | finalize hsource => exact hmove (by decide) (by rcases hsource with h | h <;> simp [h])
  | complete hfinalizing => exact hmove (by decide) (by simp [hfinalizing])
  | fail hsource =>
    refine .of_moveTo rfl rfl (fun _ => rfl) nofun ?_
    rcases hsource with h | h | h <;> simp [h]
  | retry => exact .refl s
  | loseHistory => exact s.upholds_withHistoryLost now
  | loseNothing => exact .refl s

namespace ControlPlane

variable {p q : ControlPlane} {now : Timestamp} {event : Event} {first : Snapshot}

theorem Step.upholds (hstep : Step p now event q) : p.snapshot.Upholds q.snapshot := by
  rcases hstep.snapshot with hsame | ⟨_, _, haccepts, hnext⟩
  · rw [hsame]
    exact .refl _
  · rw [hnext]
    exact haccepts.upholds

/-- What is known at one moment is upheld by whatever events come after it. -/
theorem upholds_of_runAll {events : List Timed} (h : p.runAll events = some q) :
    p.snapshot.Upholds q.snapshot := by
  induction events generalizing p with
  | nil =>
    rw [Option.some.inj h]
    exact .refl _
  | cons timed events ih =>
    obtain ⟨now, event⟩ := timed
    rw [runAll_cons, Option.bind_eq_some_iff] at h
    obtain ⟨next, hstep, hrest⟩ := h
    exact (step_eq_some hstep).upholds.trans (ih hrest)

/-- **Committed facts last**, in every run from any snapshot.  Of two moments of a run, the history at the
earlier one begins the history at the later one, and history that is lost stays lost.  A migration that has
left the idle state does not come back to it, and keeps the scope that it has.  A finalized migration keeps
its state, its scope, its reason of a failure and its history. -/
theorem committed_facts_last {earlier later : List Timed}
    (hp : (idle first).runAll earlier = some p)
    (hq : (idle first).runAll (earlier ++ later) = some q) :
    p.snapshot.history <+: q.snapshot.history ∧
    (p.snapshot.historyLost = true → q.snapshot.historyLost = true) ∧
    (p.snapshot.state ≠ .idle →
      ∀ filter, p.snapshot.filter = some filter → q.snapshot.filter = some filter) ∧
    (p.snapshot.state ≠ .idle → q.snapshot.state ≠ .idle) ∧
    (p.snapshot.state = .finalized →
      q.snapshot.state = .finalized ∧ q.snapshot.filter = p.snapshot.filter ∧
      q.snapshot.failureReason = p.snapshot.failureReason ∧
      q.snapshot.history = p.snapshot.history) := by
  rw [runAll_append, hp] at hq
  have h := upholds_of_runAll hq
  refine ⟨h.history, h.historyLost, fun hstate _ hfilter => (h.filter hstate).trans hfilter, h.started,
    fun hstate => ?_⟩
  obtain ⟨hfinalized, hreason, hhistory⟩ := h.finalized hstate
  exact ⟨hfinalized, h.filter (by rw [hstate]; decide), hreason, hhistory⟩

/-- A migration is finalized while another finalize waits for its turn.  That one is superseded, a failure
and a start are rejected, and history is lost; nothing else becomes of the migration. -/
theorem committed_facts_last_of_finalized_migration :
    ∃ p, (idle (.fresh default)).runAll (atOnce default
        [.make (.start [.str "db1.*"] []), .run 0, .finish 0 none, .make (.finalize false), .run 1,
          .make (.finalize false), .run 2, .finish 1 none]) = some p ∧
      (p.snapshot.state = .finalized ∧ p.snapshot.historyLost = false) ∧
      ∃ q, (idle (.fresh default)).runAll (atOnce default
          [.make (.start [.str "db1.*"] []), .run 0, .finish 0 none, .make (.finalize false), .run 1,
            .make (.finalize false), .run 2, .finish 1 none] ++ atOnce default
          [.wake 2, .finish 2 none, .make (.reportFailure (.str "disk full")), .run 3,
            .make (.start [] []), .run 4, .make .reportHistoryLost, .run 5]) = some q ∧
        q.snapshot.historyLost = true ∧
        q.snapshot.state = .finalized ∧ q.snapshot.filter = p.snapshot.filter ∧
        q.snapshot.failureReason = p.snapshot.failureReason ∧
        q.snapshot.history = p.snapshot.history :=
  exists_run_and
    (fun _ hp hknown => exists_run_and
      (fun _ hq _ => (committed_facts_last hp hq).2.2.2.2 hknown.1) ⟨_, rfl, rfl⟩)
    ⟨_, rfl, rfl, rfl⟩

end ControlPlane

end Cutover
