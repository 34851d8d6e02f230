import Cutover.Proofs.CutoverAttempt

/-!
# The engine and the migration agree

What the apply engine was told last and the state of the migration fit (`Agrees`) once every call is done,
unless the migration has failed or a call was cancelled.  Main statement: `engine_agrees_when_quiet`.

The state always fits the command that was accepted last, for a failure is reported and not commanded, and
only a finalize can have been accepted last when a cutover completes (`Accepts.agrees`).  Signals begin in
the order of the accepted commands, and without a cancellation each of them has begun when every call is
done (`Reachable.signals_eq_commits`); so the signal that began last is that of the command accepted last.
-/

namespace Cutover

open Journal

/-- The state of a migration fits the signal that its engine was sent last. -/
inductive Agrees : Option Signal → State → Prop
  | untouched : Agrees none .idle
  | started (scope : Filter) : Agrees (some (.start scope)) .running
  | paused : Agrees (some .pause) .paused
  | resumed (fromFailure : Bool) : Agrees (some (.resume fromFailure)) .running
  | finalizing (ignoreHistoryLost : Bool) : Agrees (some (.finalize ignoreHistoryLost)) .finalizing
  | finalized (ignoreHistoryLost : Bool) : Agrees (some (.finalize ignoreHistoryLost)) .finalized

/-- Whether an event cancels a call. -/
def Event.isCancel : Event → Bool
  | .cancel _ => true
  | _ => false

/-- An accepted rule leads to a state that fits the signal due for it, or the signal before if none is
due. -/
theorem Accepts.agrees {s : Snapshot} {now : Timestamp} {rule : Rule} {outcome : Outcome}
    {last : Option Signal} (h : Accepts s now rule outcome)
    (hlast : s.state = .failed ∨ Agrees last s.state) :
    (outcome.after s).state = .failed ∨
      Agrees ((rule.signal? (outcome.after s)).or last) (outcome.after s).state := by
  cases h with
  | start => exact Or.inr (.started _)
  | pause => exact Or.inr .paused
  | resume => exact Or.inr (.resumed _)
  | recover => exact Or.inr (.resumed _)
  | finalize => exact Or.inr (.finalizing _)
  | retry hstate => exact Or.inr (hstate ▸ .finalizing _)
  | complete hstate =>
    -- the cutover that completes was asked for by the command accepted last
    rw [hstate] at hlast
    cases hlast.resolve_left (by decide) with
    | finalizing ignoreHistoryLost => exact Or.inr (.finalized ignoreHistoryLost)
  | fail => exact Or.inl rfl
  | loseHistory => exact hlast
  | loseNothing => exact hlast

namespace Journal

/-- The signal that began last. -/
def lastSignal? (journal : Journal) : Option Signal :=
  journal.signals.getLast?.map Prod.snd

/-- The signal due for the command that was accepted last. -/
def lastDue? (journal : Journal) : Option Signal :=
  journal.commits.getLast?.map Prod.snd

variable {first : Snapshot} {journal : Journal} {call : CallId}

theorem lastDue?_concat (note : Note) :
    lastDue? (journal ++ [note]) = (note.commit?.map Prod.snd).or journal.lastDue? := by
  cases hcommit : note.commit? <;> simp [lastDue?, commits, hcommit]

/-- Unless a migration has failed, its state fits the command that was accepted last. -/
theorem agrees_lastDue? (hfirst : first.state = .idle) (h : Throughout (AppliedInTurn first) journal) :
    (first.afterAll journal.applications).state = .failed ∨
      Agrees journal.lastDue? (first.afterAll journal.applications).state := by
  refine afterAll_induction
    (motive := fun journal s => s.state = .failed ∨ Agrees journal.lastDue? s.state) ?_ ?_ ?_ h
  · rw [hfirst]
    exact Or.inr .untouched
  · intro journal s call rule now outcome hlast haccepts haccepted
    rw [lastDue?_concat]
    simpa [Note.commit?, haccepted, Function.comp_def] using haccepts.agrees hlast
  · intro journal s note hlast hnote
    rw [lastDue?_concat, commit?_of_not_accepts hnote]
    exact hlast

end Journal

namespace ControlPlane

variable {p q : ControlPlane} {first : Snapshot} {now start : Timestamp} {event : Event}
  {call : CallId} {events : List Timed}

/-- Only a cancellation tells of one. -/
theorem Step.not_mem_cancelled (hstep : Step p now event q) (hevent : event.isCancel = false)
    (hp : .cancelled call ∉ p.journal) : .cancelled call ∉ q.journal := by
  have hsilent (notes : Journal) (h : notes.Silent) : .cancelled call ∉ notes :=
    fun hmem => by cases h _ hmem
  have hcommit (made : CallId) (rule : Rule) : .cancelled call ∉ p.commitNotes now made rule := by
    rw [commitNotes, List.mem_cons, not_or]
    exact ⟨by simp, hsilent _ (silent_outcomeNotes _ _ _)⟩
  cases hstep with
  | report => simp [hp, hcommit, hsilent _ (silent_reportNotes _ _ _)]
  | handOver => exact hp
  | withdraw | miss | leave | interrupt => cases hevent
  | _ => simp [hp, hcommit, failureNotes]

/-- Without a cancellation no call is cancelled. -/
theorem isCancelled_eq_false (h : (idle first).runAll events = some p)
    (hcancel : events.any (·.2.isCancel) = false) : p.journal.isCancelled call = false := by
  rw [← Bool.not_eq_true, isCancelled_iff]
  refine runAll_induction
    (motive := fun events p => events.any (·.2.isCancel) = false → .cancelled call ∉ p.journal)
    (fun _ => List.not_mem_nil) ?_ h hcancel
  intro events p now event q _ hp hstep hcancel
  rw [List.any_append, Bool.or_eq_false_iff] at hcancel
  exact hstep.not_mem_cancelled (by simpa using hcancel.2) (hp hcancel.1)

/-- When every call is done and none was cancelled, every accepted command has been signalled. -/
theorem Reachable.signals_eq_commits (h : Reachable first p)
    (hcancel : ∀ call, p.journal.isCancelled call = false)
    (hdone : p.calls.all (·.phase.isDone) = true) : p.journal.signals = p.journal.commits := by
  rw [h.ordered.signals, List.filter_eq_self]
  rintro ⟨call, signal⟩ hcommit
  have hlife := h.lives call
  have htold := mem_commits_about hcommit
  cases hcall : p.calls[call]? with
  | none =>
    rw [hcall] at hlife
    simp [hlife.eq_nil] at htold
  | some c =>
    rw [hcall] at hlife
    have hover := hlife.isOver_of_isDone
      (List.all_eq_true.mp hdone c (List.mem_of_getElem? hcall)) (List.ne_nil_of_mem htold)
    -- the call is over because its signal has ended, so the signal has begun
    rw [isOver, isCancelled_about, hcancel call, Bool.or_false] at hover
    have hbegun := hlife.hasBegun_of_hasEnded hover
    rwa [hasBegun_about] at hbegun

/-- **The engine and the migration agree when no call is pending**, in every run of a migration that begins
fresh in which no call is cancelled.  Unless the migration has failed, the signal that began last fits its
state: there is none if it is idle, and otherwise it is that of a start or a resume if it is running, of a
pause if it is paused, and of a finalize if it is finalizing or finalized. -/
theorem engine_agrees_when_quiet (h : (idle (.fresh start)).runAll events = some p)
    (hcancel : events.any (·.2.isCancel) = false) (hdone : p.calls.all (·.phase.isDone) = true)
    (hstate : p.snapshot.state ≠ .failed) :
    (p.journal.lastSignal? = none ↔ p.snapshot.state = .idle) ∧
    ((∃ scope, p.journal.lastSignal? = some (.start scope)) ∨
        (∃ fromFailure, p.journal.lastSignal? = some (.resume fromFailure)) ↔
      p.snapshot.state = .running) ∧
    (p.journal.lastSignal? = some .pause ↔ p.snapshot.state = .paused) ∧
    ((∃ ignoreHistoryLost, p.journal.lastSignal? = some (.finalize ignoreHistoryLost)) ↔
      p.snapshot.state = .finalizing ∨ p.snapshot.state = .finalized) := by
  have hreach : Reachable (.fresh start) p := ⟨events, h⟩
  have hsignals := hreach.signals_eq_commits (fun _ => isCancelled_eq_false h hcancel) hdone
  have hagrees := agrees_lastDue? rfl hreach.linear.inTurn
  rw [← hreach.linear.snapshot, lastDue?, ← hsignals, ← lastSignal?] at hagrees
  have hfits := hagrees.resolve_left hstate
  generalize p.journal.lastSignal? = last at hfits ⊢
  generalize p.snapshot.state = state at hfits ⊢
  cases hfits <;> simp

/-- A failure is reported during the cutover, and the resume that follows waits for its signal.  The
cutover cannot complete any more, and the engine is told of the resume last. -/
theorem engine_agrees_when_quiet_after_overtaken_cutover :
    ∃ p, (idle (.fresh default)).runAll (atOnce default
        [.make (.start [] []), .run 0, .finish 0 none, .make (.finalize false), .run 1,
          .make (.reportFailure (.str "disk full")), .run 2, .make (.resume true), .run 3,
          .finish 1 none, .wake 3, .finish 3 (some "refused")]) = some p ∧
      (p.calls.all (·.phase.isDone) = true ∧ p.snapshot.state ≠ .failed ∧
        p.journal.lastSignal? = some (.resume true)) ∧
      p.snapshot.state = .running :=
  exists_run_and
    (fun _ hrun ⟨hdone, hstate, hlast⟩ =>
      (engine_agrees_when_quiet hrun rfl hdone hstate).2.1.mp (Or.inr ⟨_, hlast⟩))
    ⟨_, rfl, rfl, nofun, rfl⟩

end ControlPlane

end Cutover
