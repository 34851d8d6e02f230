import Cutover.Proofs.CutoverAttempt

/-!
# History that is lost late

Whether history was lost is asked when a finalize is accepted, and not again when it completes.  So a
migration becomes finalized with lost history if a finalize asked to ignore that, or if history was lost
only after the last finalize had been accepted: while the cutover was under way, or once it was complete.
Main statement: `override_or_late_loss`.

The flag of a lost history is raised by one entry of the journal, and every finalize that is accepted later
finds it raised (`tellsLoss_of_historyLost`).
-/

namespace Cutover

namespace Note

/-- Whether an entry tells that history was lost, which it was not before. -/
def losesHistory : Note → Bool
  | .applied _ .markHistoryLost _ _ (.moved _) => true
  | _ => false

/-- Whether an entry tells that a finalize was accepted that asks to ignore a lost history. -/
def overrides : Note → Bool
  | .applied _ (.beginFinalize true) _ _ outcome => outcome.isAccepted
  | _ => false

/-- The report of a loss is no finalize. -/
theorem finalize?_of_losesHistory {note : Note} (h : note.losesHistory = true) :
    note.finalize? = none := by
  cases note with
  | applied call rule before now outcome =>
    cases rule with
    | markHistoryLost => rfl
    | _ => cases h
  | _ => cases h

end Note

namespace Journal

variable {first : Snapshot} {journal : Journal} {note : Note}

/-- A loss of history is told of by one entry, and every finalize that is accepted later asks to ignore
it. -/
def TellsLoss (journal : Journal) : Prop :=
  ∃ earlier report later, journal = earlier ++ report :: later ∧ report.losesHistory = true ∧
    ∀ note ∈ later, note.finalize?.isSome = true → note.overrides = true

theorem TellsLoss.concat {note : Note} (h : journal.TellsLoss)
    (hnote : note.finalize?.isSome = true → note.overrides = true) : TellsLoss (journal ++ [note]) := by
  obtain ⟨earlier, report, later, rfl, hreport, hlater⟩ := h
  refine ⟨earlier, report, later ++ [note], by simp, hreport, ?_⟩
  exact List.forall_mem_append.mpr ⟨hlater, by simpa using hnote⟩

/-- If history was lost that was not at first, the loss is told of. -/
theorem tellsLoss_of_historyLost (hfirst : first.historyLost = false)
    (h : Throughout (AppliedInTurn first) journal)
    (hlost : (first.afterAll journal.applications).historyLost = true) : journal.TellsLoss := by
  refine afterAll_induction (motive := fun journal s => s.historyLost = true → journal.TellsLoss)
    ?_ ?_ ?_ h hlost
  · intro hlost
    rw [hfirst] at hlost
    cases hlost
  · intro journal s call rule now outcome hbefore haccepts _ hlost
    cases haccepts with
    | loseHistory => exact ⟨journal, _, [], rfl, rfl, by simp⟩
    | finalize _ hgate => exact (hbefore hlost).concat fun _ => by rw [hgate hlost]; rfl
    | retry _ hgate => exact (hbefore hlost).concat fun _ => by rw [hgate hlost]; rfl
    | _ => exact (hbefore hlost).concat fun hfinalize => by cases hfinalize
  · intro journal s note hbefore hnote hlost
    refine (hbefore hlost).concat fun hfinalize => ?_
    rw [finalize?_of_not_accepts hnote] at hfinalize
    cases hfinalize

/-- A migration that began idle finalizes, or is finalized, only once a finalize was accepted. -/
theorem any_finalize?_of_state (hfirst : first.state = .idle)
    (h : Throughout (AppliedInTurn first) journal)
    (hstate : (first.afterAll journal.applications).state = .finalizing ∨
      (first.afterAll journal.applications).state = .finalized) :
    journal.any (·.finalize?.isSome) = true := by
  refine afterAll_induction (motive := fun journal s => s.state = .finalizing ∨ s.state = .finalized →
    journal.any (·.finalize?.isSome) = true) ?_ ?_ ?_ h hstate
  · intro hstate
    simp [hfirst] at hstate
  · intro journal s call rule now outcome hbefore haccepts _ hstate
    rw [List.any_append, Bool.or_eq_true]
    cases haccepts with
    | finalize => exact Or.inr rfl
    | retry => exact Or.inr rfl
    | complete hfinalizing => exact Or.inl (hbefore (Or.inl hfinalizing))
    | loseHistory => exact Or.inl (hbefore hstate)
    | loseNothing => exact Or.inl (hbefore hstate)
    | _ => rcases hstate with hstate | hstate <;> cases hstate
  · intro journal s note hbefore hnote hstate
    rw [List.any_append, hbefore hstate, Bool.true_or]

end Journal

namespace ControlPlane

open Journal

variable {p : ControlPlane} {start now : Timestamp} {current next : Snapshot} {before : Journal}
  {call : CallId} {rule : Rule}

/-- **A migration is finalized with lost history only by an override, or if history was lost late**, in
every run of a migration that begins fresh.  If a snapshot becomes current that is finalized with lost
history, then a finalize was accepted before that asks to ignore a lost history, or the entry that tells of
the loss comes after the last finalize that was accepted. -/
theorem override_or_late_loss (h : Reachable (.fresh start) p)
    (hwritten : before ++ [.applied call rule current now (.moved next)] <+: p.journal)
    (hnext : next.state = .finalized) (hlost : next.historyLost = true) :
    before.any (·.overrides) = true ∨
      ∃ (earlier : Journal) (report : Note) (later : Journal),
        before ++ [.applied call rule current now (.moved next)] = earlier ++ report :: later ∧
        report.losesHistory = true ∧ earlier.any (·.finalize?.isSome) = true ∧
        later.any (·.finalize?.isSome) = false := by
  have hinTurn := h.linear.inTurn.mono hwritten
  obtain ⟨_, haccepts, hafter⟩ := afterAll_applied hinTurn rfl
  have hfinalize := any_finalize?_of_state rfl hinTurn (Or.inr (by rw [hafter]; exact hnext))
  obtain ⟨earlier, report, later, hsplit, hreport, hlater⟩ :=
    tellsLoss_of_historyLost rfl hinTurn (by rw [hafter]; exact hlost)
  rw [hsplit] at hfinalize
  rw [or_iff_not_imp_left, Bool.not_eq_true]
  intro hnone
  -- the entry itself accepts no finalize, as the migration is finalized with it
  have hlast : (Note.applied call rule current now (.moved next)).overrides = false := by
    rw [← Bool.not_eq_true]
    intro hoverrides
    cases haccepts with
    | finalize => cases hnext
    | _ => cases hoverrides
  have hlate : later.any (·.finalize?.isSome) = false := by
    rw [List.any_eq_false]
    intro note hmem hnote
    have hwhere : note ∈ before ++ [.applied call rule current now (.moved next)] := by
      rw [hsplit]
      exact List.mem_append_right _ (List.mem_cons_of_mem _ hmem)
    have hoverrides := hlater note hmem hnote
    rcases List.mem_append.mp hwhere with hwhere | hwhere
    · exact List.any_eq_false.mp hnone note hwhere hoverrides
    · rw [List.mem_singleton.mp hwhere, hlast] at hoverrides
      cases hoverrides
  refine ⟨earlier, report, later, hsplit, hreport, ?_, hlate⟩
  simpa [hlate, Note.finalize?_of_losesHistory hreport] using hfinalize

/-- The cutover fails and is asked for once more, and its source loses history while it is under way.  No
finalize asks to ignore that, and the loss comes after the second finalize. -/
theorem override_or_late_loss_of_retried_cutover :
    ∃ p, (idle (.fresh default)).runAll (atOnce default
        [.make (.start [] []), .run 0, .finish 0 none, .make (.finalize false), .run 1,
          .finish 1 (some "refused"), .make (.finalize false), .run 2, .make .reportHistoryLost,
          .run 3, .finish 2 none]) = some p ∧
      (∃ current now next, p.journal.take 25 ++
          [.applied 2 .completeFinalize current now (.moved next)] <+: p.journal ∧
        next.state = .finalized ∧ next.historyLost = true ∧
        (p.journal.take 25).any (·.overrides) = false) ∧
      ∃ (earlier : Journal) (report : Note) (later : Journal),
        earlier ++ report :: later <+: p.journal ∧ report.losesHistory = true ∧
        earlier.any (·.finalize?.isSome) = true ∧ later.any (·.finalize?.isSome) = false :=
  exists_run_and
    (fun _ hrun ⟨_, _, _, hwritten, hnext, hlost, hnone⟩ => by
      obtain ⟨earlier, report, later, hsplit, hlate⟩ :=
        (override_or_late_loss ⟨_, hrun⟩ hwritten hnext hlost).resolve_left (by simp [hnone])
      exact ⟨earlier, report, later, hsplit ▸ hwritten, hlate⟩)
    ⟨_, rfl, _, _, _, ⟨_, rfl⟩, rfl, rfl, rfl⟩

/-- The source of a migration loses history during its cutover.  The migration becomes finalized with lost
history, though no finalize asked to ignore that. -/
theorem finalized_with_lost_history :
    ∃ p, (idle (.fresh default)).runAll (atOnce default
        [.make (.start [] []), .run 0, .finish 0 none, .make (.finalize false), .run 1,
          .make .reportHistoryLost, .run 2, .finish 1 none]) = some p ∧
      (∃ current now next, p.journal.take 18 ++
          [.applied 1 .completeFinalize current now (.moved next)] <+: p.journal ∧
        next.state = .finalized ∧ next.historyLost = true) ∧
      p.journal.any (·.overrides) = false :=
  ⟨_, rfl, ⟨_, _, _, ⟨_, rfl⟩, rfl, rfl⟩, rfl⟩

end ControlPlane

end Cutover
