import Cutover.Proofs.CompletedCutover

/-!
# What supersedes a finalize

A finalize whose signal has returned completes if the migration is still finalizing, and is superseded
otherwise.  A failure may have been accepted since the finalize was (`isOvertaken`); but it may also be that
another finalize has completed the cutover first (`isForestalled`).  If no failure was accepted, a finalize
is superseded exactly in the second case.  Main statement: `superseded_iff_forestalled`.

Without a failure the migration stays finalizing or becomes finalized, and it becomes finalized by the
completion of a finalize alone.  So the completion of another finalize is all that can come between
(`exists_completion`), and once it has come the migration stays finalized.
-/

namespace Cutover

open Journal

/-- The completion of a cutover is accepted while a migration is finalizing. -/
theorem Rule.isAccepted_completeFinalize {s : Snapshot} {now : Timestamp} :
    (completeFinalize.apply s now).isAccepted = true ↔ s.state = .finalizing := by
  constructor
  · intro haccepted
    have haccepts := Rule.accepts haccepted
    generalize completeFinalize.apply s now = outcome at haccepts
    cases haccepts with
    | complete hstate => exact hstate
  · intro hstate
    rw [apply, Snapshot.completeFinalize, isAllowed_iff.mpr (by simp [sources, hstate])]
    rfl

/-- The call whose finalize completes by an entry. -/
def Note.completion? : Note → Option CallId
  | .applied call .completeFinalize _ _ (.moved _) => some call
  | _ => none

/-- Whether another finalize has completed since the finalize of a call was accepted. -/
def Journal.isForestalled (journal : Journal) (call : CallId) : Bool :=
  (journal.since (·.finalize? = some call)).any fun note => note.completion?.any (· ≠ call)

theorem Note.completion?_eq_some {note : Note} {call : CallId} :
    note.completion? = some call ↔
      ∃ current now next, note = .applied call .completeFinalize current now (.moved next) := by
  constructor
  · intro h
    cases note with
    | applied other rule current now outcome =>
      cases rule with
      | completeFinalize =>
        cases outcome with
        | moved next =>
          obtain rfl := Option.some.inj h
          exact ⟨_, _, _, rfl⟩
        | _ => cases h
      | _ => cases h
    | _ => cases h
  · rintro ⟨_, _, _, rfl⟩
    rfl

namespace Journal

variable {first : Snapshot} {earlier later : Journal} {note : Note} {call : CallId}

/-- Once a finalize has completed, the migration is finalized. -/
theorem state_of_completion? (h : Throughout (AppliedInTurn first) (earlier ++ [note]))
    (hnote : note.completion? = some call) :
    (first.afterAll (earlier ++ [note]).applications).state = .finalized := by
  obtain ⟨_, _, _, rfl⟩ := Note.completion?_eq_some.mp hnote
  obtain ⟨_, haccepts, hafter⟩ := afterAll_applied h rfl
  rw [hafter]
  cases haccepts with
  | complete => rfl

/-- A migration becomes finalized by the completion of a finalize. -/
theorem completion?_of_enters (h : Throughout (AppliedInTurn first) (earlier ++ [note]))
    (hnote : note.enters .finalized = true) : ∃ call, note.completion? = some call := by
  obtain ⟨hbefore, hafter⟩ := (enters_iff h).mp hnote
  cases note with
  | applied call rule current now outcome =>
    cases outcome with
    | moved next =>
      obtain ⟨rfl, haccepts, hnext⟩ := afterAll_applied h rfl
      rw [hnext] at hafter
      obtain rfl := haccepts.eq_completeFinalize_of_ne hbefore hafter
      exact ⟨call, rfl⟩
    | _ => cases hnote
  | _ => cases hnote

/-- If a migration that was finalizing is so no more, and no failure was accepted, then a finalize has
completed. -/
theorem exists_completion (h : Throughout (AppliedInTurn first) (earlier ++ later))
    (hstate : (first.afterAll earlier.applications).state = .finalizing)
    (hlater : later.any (·.acceptsFailure) = false)
    (hleft : (first.afterAll (earlier ++ later).applications).state ≠ .finalizing) :
    ∃ note ∈ later, ∃ call, note.completion? = some call := by
  have hfinalized := (not_enters_of_not_acceptsFailure h (Or.inl hstate) hlater).2.resolve_left hleft
  have henters : later.any (·.enters .finalized) = true := by
    rw [← Bool.not_eq_false]
    intro hnone
    exact state_ne_of_not_enters h (by rw [hstate]; decide) hnone hfinalized
  obtain ⟨note, hmem, hnote⟩ := List.any_eq_true.mp henters
  obtain ⟨_, _, _, hsoon⟩ := h.exists_split hmem
  exact ⟨note, hmem, completion?_of_enters hsoon hnote⟩

/-- Once a finalize has completed, the migration stays finalized. -/
theorem state_of_mem_completion? (h : Throughout (AppliedInTurn first) (earlier ++ later))
    (hmem : note ∈ later) (hnote : note.completion? = some call) :
    (first.afterAll (earlier ++ later).applications).state = .finalized := by
  obtain ⟨soon, late, rfl, hsoon⟩ := h.exists_split hmem
  have hsplit : earlier ++ (soon ++ note :: late) = (earlier ++ soon) ++ [note] ++ late := by simp
  rw [hsplit] at h ⊢
  exact state_append_of_finalized h (state_of_completion? hsoon hnote)

end Journal

/-! ### The result of a finalize -/

/-- A finalize that was answered says whether its completion was rejected, or was not completed because it
was rejected itself or its signal failed. -/
theorem Life.superseded_cases {call : CallId} {ignoreHistoryLost : Bool} {result : CommandResult}
    {told : Journal} (h : Life call (some ⟨.finalize ignoreHistoryLost, .answered result⟩) told) :
    (result.superseded = none ∧ (result.error ≠ none ∨ result.signalError ≠ none)) ∨
      ∃ current now, .applied call .completeFinalize current now
          (Rule.completeFinalize.apply current now) ∈ told ∧
        result.superseded = (Rule.completeFinalize.apply current now).rejection? := by
  cases h with
  | rejected hrule hout hresult => exact Or.inl ⟨by rw [hresult], Or.inl (by simp [hresult])⟩
  | reported hrule hout hsignal => cases hsignal
  | failed hrule hout hsignal hresult => exact Or.inl ⟨by rw [hresult], Or.inr (by simp [hresult])⟩
  | delivered hrule hout hsignal hfinal => cases hfinal
  | @completed _ _ current _ later _ _ _ _ hrule hout hsignal hfinal hlast hresult =>
    subst hlast
    exact Or.inr ⟨current, later, by simp, by rw [hresult]⟩

namespace ControlPlane

variable {p : ControlPlane} {first current : Snapshot} {before : Journal} {call : CallId}
  {now : Timestamp} {outcome : Outcome}

/-- A finalize completes at most once. -/
theorem Reachable.completion?_ne (h : Reachable first p) {note : Note}
    (hwritten : before ++ [.applied call .completeFinalize current now outcome] <+: p.journal)
    (hmem : note ∈ before) : note.completion? ≠ some call := by
  intro hnote
  obtain ⟨earlier, command, accepted, signal, rfl, haccepted, habout⟩ := h.exists_completing hwritten
  obtain ⟨_, _, _, _, rfl, _⟩ := finalize?_eq_some.mp haccepted
  obtain ⟨other, time, next, rfl⟩ := Note.completion?_eq_some.mp hnote
  have htold : .applied call .completeFinalize other time (.moved next) ∈
      about (earlier ++ [.ended call none]) call := (mem_about rfl).mpr hmem
  rw [about_concat rfl, habout] at htold
  simp at htold

/-- A finalize that no failure overtakes fails to complete exactly if another has completed first. -/
theorem Reachable.forestalled_iff (h : Reachable first p)
    (hwritten : before ++ [.applied call .completeFinalize current now outcome] <+: p.journal)
    (hovertaken : before.isOvertaken call = false) :
    before.isForestalled call = true ↔ current.state ≠ .finalizing := by
  have hinTurn := h.linear.inTurn.mono hwritten
  obtain ⟨hcurrent, _⟩ := (throughout_concat.mp hinTurn).2 _ _ _ _ _ rfl
  have hany := (h.accepted_of_completing hwritten).1
  obtain ⟨earlier, accepted, later, rfl, hcall, _, hsince⟩ := exists_since hany
  rw [decide_eq_true_eq] at hcall
  rw [isOvertaken, hsince, List.any_cons, Bool.or_eq_false_iff] at hovertaken
  have hnever : accepted.completion? = none := by
    obtain ⟨_, _, _, _, rfl, _⟩ := finalize?_eq_some.mp hcall
    rfl
  have hsplit : earlier ++ accepted :: later = earlier ++ [accepted] ++ later := by simp
  have htaken : Throughout (AppliedInTurn first) (earlier ++ [accepted] ++ later) :=
    hsplit ▸ (throughout_concat.mp hinTurn).1
  -- what is told of the state before the completion is what has come since the finalize was accepted
  rw [isForestalled, hsince, List.any_cons, hnever, Option.any_none, Bool.false_or,
    List.any_eq_true, hcurrent, hsplit]
  constructor
  · rintro ⟨note, hmem, hnote⟩
    obtain ⟨other, hother, _⟩ := (Option.any_eq_true _ _).mp hnote
    rw [state_of_mem_completion? htaken hmem hother]
    decide
  · intro hleft
    obtain ⟨note, hmem, other, hother⟩ := exists_completion htaken
      (state_of_finalize? (throughout_append.mp htaken).1 hcall) hovertaken.2 hleft
    refine ⟨note, hmem, ?_⟩
    -- this completion is another one's, as the finalize comes to its own only now
    have hne : other ≠ call := by
      rintro rfl
      exact h.completion?_ne hwritten (by simp [hmem]) hother
    simpa [hother] using hne

/-- **A finalize that no failure overtakes is superseded exactly if another finalize has completed
first**, in every run from any snapshot.  A finalize that was answered was rejected, or its signal failed,
and it is not superseded; or it came to its completion, where it is superseded if that is rejected. -/
theorem superseded_iff_forestalled (h : Reachable first p) {ignoreHistoryLost : Bool}
    {result : CommandResult}
    (hcall : p.calls[call]? = some ⟨.finalize ignoreHistoryLost, .answered result⟩) :
    (result.superseded = none ∧ (result.error ≠ none ∨ result.signalError ≠ none)) ∨
      ∃ (before : Journal) (current : Snapshot) (now : Timestamp) (outcome : Outcome),
        before ++ [.applied call .completeFinalize current now outcome] <+: p.journal ∧
        before.any (·.finalize? = some call) = true ∧
        result.superseded = outcome.rejection? ∧
        (before.isOvertaken call = false →
          (result.superseded.isSome = true ↔ before.isForestalled call = true)) := by
  rcases (h.lives.life hcall).superseded_cases with hnever | ⟨current, now, hmem, hsuperseded⟩
  · exact Or.inl hnever
  · right
    obtain ⟨before, rest, hsplit⟩ := List.append_of_mem ((mem_about rfl).mp hmem)
    have hwritten : before ++ [.applied call .completeFinalize current now
        (Rule.completeFinalize.apply current now)] <+: p.journal := ⟨rest, by simp [hsplit]⟩
    refine ⟨before, current, now, _, hwritten, (h.accepted_of_completing hwritten).1, hsuperseded,
      fun hovertaken => ?_⟩
    rw [h.forestalled_iff hwritten hovertaken, ne_eq, ← @Rule.isAccepted_completeFinalize current now,
      ← Outcome.rejection?_eq_none, hsuperseded, Option.isSome_iff_ne_none]

/-- The cutover is asked for twice more while its signal is in progress, and the first of these calls is
cancelled.  The other one is superseded, as the migration was completed before it could complete. -/
theorem superseded_iff_forestalled_past_cancelled_retry :
    ∃ p, (idle (.fresh default)).runAll (atOnce default
        [.make (.start [] []), .run 0, .finish 0 none, .make (.finalize false), .run 1,
          .make (.finalize false), .run 2, .make (.finalize false), .run 3, .cancel 2,
          .finish 1 none, .handOver 2, .wake 3, .finish 3 none]) = some p ∧
      (∃ result, p.calls[3]? = some ⟨.finalize false, .answered result⟩ ∧
        result.superseded = some (.notAllowed "finalize" .finalized)) ∧
      ∃ (before : Journal) (current : Snapshot) (now : Timestamp) (outcome : Outcome),
        before ++ [.applied 3 .completeFinalize current now outcome] <+: p.journal ∧
        outcome.rejection? = some (.notAllowed "finalize" .finalized) ∧
        (before.isOvertaken 3 = false → before.isForestalled 3 = true) :=
  exists_run_and
    (fun _ hrun ⟨_, hcall, hsuperseded⟩ => by
      rcases superseded_iff_forestalled ⟨_, hrun⟩ hcall with
        ⟨hnever, _⟩ | ⟨before, current, now, outcome, hwritten, _, hrejected, hiff⟩
      · rw [hsuperseded] at hnever
        cases hnever
      · rw [hsuperseded] at hrejected hiff
        exact ⟨before, current, now, outcome, hwritten, hrejected.symm, fun h => (hiff h).mp rfl⟩)
    ⟨_, rfl, _, rfl, rfl⟩

/-- The cutover is asked for once more while its signal is in progress.  The second finalize is superseded,
though no failure was ever reported. -/
theorem superseded_without_failure :
    ∃ p, (idle (.fresh default)).runAll (atOnce default
        [.make (.start [] []), .run 0, .finish 0 none, .make (.finalize false), .run 1,
          .make (.finalize false), .run 2, .finish 1 none, .wake 2, .finish 2 none]) = some p ∧
      (∃ result, p.calls[2]? = some ⟨.finalize false, .answered result⟩ ∧
        result.superseded = some (.notAllowed "finalize" .finalized)) ∧
      p.journal.any (·.acceptsFailure) = false :=
  ⟨_, rfl, ⟨_, rfl, rfl⟩, rfl⟩

end ControlPlane

end Cutover
