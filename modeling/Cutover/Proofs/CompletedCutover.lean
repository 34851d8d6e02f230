import Cutover.Proofs.CutoverAttempt

/-!
# What comes after a completed cutover

Once a migration is finalized, no rule is accepted any more but that its source has lost history
(`accepts_markHistoryLost_of_finalized`).  What was accepted before is not taken back: a signal that begins
later is one that stood behind the completing finalize in the queue.  If no failure was accepted since that
finalize was, what stands there are finalizes that asked for the cutover once more while it was under way
(`Accepts.eq_retry`).  Main statement: `signals_after_completion`.
-/

namespace Cutover

open Journal

section Rule

variable {s : Snapshot} {now : Timestamp} {rule : Rule} {outcome : Outcome}

/-- A finalized migration accepts nothing but that history was lost, and stays finalized. -/
theorem Accepts.of_finalized (h : Accepts s now rule outcome) (hstate : s.state = .finalized) :
    rule = .markHistoryLost ∧ (outcome.after s).state = .finalized := by
  cases h with
  | start hidle => simp [hidle] at hstate
  | pause hrunning => simp [hrunning] at hstate
  | resume hpaused => simp [hpaused] at hstate
  | recover hfailed => simp [hfailed] at hstate
  | finalize hsource => rcases hsource with h | h <;> simp [h] at hstate
  | retry hfinalizing => simp [hfinalizing] at hstate
  | complete hfinalizing => simp [hfinalizing] at hstate
  | fail hsource => rcases hsource with h | h | h <;> simp [h] at hstate
  | loseHistory => exact ⟨rfl, hstate⟩
  | loseNothing => exact ⟨rfl, hstate⟩

/-- While a migration finalizes, the only signal that comes to be due is that of its cutover, asked for
once more. -/
theorem Accepts.eq_retry {signal : Signal} (h : Accepts s now rule outcome)
    (hstate : s.state = .finalizing ∨ s.state = .finalized)
    (hsignal : rule.signal? (outcome.after s) = some signal) :
    ∃ ignoreHistoryLost, rule = .beginFinalize ignoreHistoryLost ∧ outcome = .kept ∧
      s.state = .finalizing ∧ signal = .finalize ignoreHistoryLost := by
  cases h with
  | start hidle => simp [hidle] at hstate
  | pause hrunning => simp [hrunning] at hstate
  | resume hpaused => simp [hpaused] at hstate
  | recover hfailed => simp [hfailed] at hstate
  | finalize hsource => rcases hsource with h | h <;> simp [h] at hstate
  | retry hfinalizing => exact ⟨_, rfl, rfl, hfinalizing, (Option.some.inj hsignal).symm⟩
  | _ => cases hsignal

end Rule

/-- A signal begins once, and not after its call was over. -/
def BeginsOnce (call : CallId) (before : Journal) (note : Note) : Prop :=
  ∀ signal, note = .began call signal →
    before.hasBegun call = false ∧ before.isOver call = false

theorem Life.beginsOnce {call : CallId} {c : Option Call} {told : Journal} (h : Life call c told) :
    told.Throughout (BeginsOnce call) := by
  cases h <;> simp [throughout_cons, BeginsOnce, hasBegun, isOver, hasEnded, isCancelled]

namespace Journal

variable {first : Snapshot} {earlier later : Journal} {note : Note} {call : CallId}

/-! ### The rules of a finalized migration -/

theorem state_of_finalized (h : Throughout (AppliedInTurn first) (earlier ++ [note]))
    (hstate : (first.afterAll earlier.applications).state = .finalized) :
    (first.afterAll (earlier ++ [note]).applications).state = .finalized := by
  rcases afterAll_concat_cases h with ⟨_, _, _, _, _, rfl, haccepted⟩ | ⟨_, hsame⟩
  · obtain ⟨rfl, haccepts, hafter⟩ := afterAll_applied h haccepted
    rw [hafter]
    exact (haccepts.of_finalized hstate).2
  · rw [hsame, hstate]

/-- A finalized migration stays so. -/
theorem state_append_of_finalized (h : Throughout (AppliedInTurn first) (earlier ++ later))
    (hstate : (first.afterAll earlier.applications).state = .finalized) :
    (first.afterAll (earlier ++ later).applications).state = .finalized := by
  induction later using List.reverseRecOn with
  | nil => rwa [List.append_nil]
  | append_singleton later note ih =>
    rw [← List.append_assoc] at h ⊢
    exact state_of_finalized h (ih (throughout_concat.mp h).1)

/-- Whatever rule a finalized migration accepts tells that history was lost. -/
theorem eq_markHistoryLost_of_finalized (h : Throughout (AppliedInTurn first) (earlier ++ later))
    (hstate : (first.afterAll earlier.applications).state = .finalized) {rule : Rule}
    {current : Snapshot} {now : Timestamp} {outcome : Outcome}
    (hmem : .applied call rule current now outcome ∈ later) (haccepted : outcome.isAccepted = true) :
    rule = .markHistoryLost := by
  obtain ⟨soon, _, rfl, hsoon⟩ := h.exists_split hmem
  obtain ⟨rfl, haccepts, _⟩ := afterAll_applied hsoon haccepted
  exact (haccepts.of_finalized
    (state_append_of_finalized (throughout_concat.mp hsoon).1 hstate)).1

/-- A finalized migration accepts no command that has a signal. -/
theorem commits_eq_nil_of_finalized (h : Throughout (AppliedInTurn first) (earlier ++ later))
    (hstate : (first.afterAll earlier.applications).state = .finalized) : later.commits = [] := by
  rw [List.eq_nil_iff_forall_not_mem]
  rintro ⟨call, signal⟩ hmem
  obtain ⟨note, hnote, hcommit⟩ := List.mem_filterMap.mp hmem
  obtain ⟨rule, _, _, _, rfl, haccepted, hsignal⟩ := Note.commit?_eq_some.mp hcommit
  obtain rfl := eq_markHistoryLost_of_finalized h hstate hnote haccepted
  cases hsignal

/-! ### What is accepted while a migration finalizes -/

/-- A command that is accepted while a migration finalizes, and before a failure is, asks for the cutover
once more. -/
theorem retry_of_not_acceptsFailure (h : Throughout (AppliedInTurn first) (earlier ++ later))
    (hstate : (first.afterAll earlier.applications).state = .finalizing)
    (hlater : later.any (·.acceptsFailure) = false) {signal : Signal}
    (hmem : (call, signal) ∈ later.commits) :
    ∃ ignoreHistoryLost current now,
      .applied call (.beginFinalize ignoreHistoryLost) current now .kept ∈ later ∧
        current.state = .finalizing ∧ signal = .finalize ignoreHistoryLost := by
  obtain ⟨note, hnote, hcommit⟩ := List.mem_filterMap.mp hmem
  obtain ⟨rule, current, now, outcome, rfl, haccepted, hsignal⟩ := Note.commit?_eq_some.mp hcommit
  obtain ⟨soon, _, rfl, hsoon⟩ := h.exists_split hnote
  rw [List.any_append, Bool.or_eq_false_iff] at hlater
  -- the migration has finalized all the way to this command
  have hbefore := (not_enters_of_not_acceptsFailure (throughout_concat.mp hsoon).1
    (Or.inl hstate) hlater.1).2
  obtain ⟨rfl, haccepts, _⟩ := afterAll_applied hsoon haccepted
  obtain ⟨ignoreHistoryLost, rfl, rfl, hfinalizing, rfl⟩ := haccepts.eq_retry hbefore hsignal
  exact ⟨ignoreHistoryLost, _, now, hnote, hfinalizing, rfl⟩

end Journal

namespace ControlPlane

variable {p : ControlPlane} {first current : Snapshot} {before after : Journal} {call : CallId}
  {now : Timestamp}

/-! ### The signals that are left -/

/-- A signal begins once, and not after its call was over. -/
theorem Reachable.beginsOnce (h : Reachable first p) {signal : Signal}
    (hwritten : before ++ [.began call signal] <+: p.journal) :
    before.hasBegun call = false ∧ before.isOver call = false := by
  have htold : about (before ++ [.began call signal]) call <+: p.journal.about call :=
    about_mono hwritten
  rw [about_concat rfl] at htold
  obtain ⟨hbegun, hover⟩ := (h.lives call).beginsOnce _ _ htold _ rfl
  rw [hasBegun_about] at hbegun
  rw [isOver_about] at hover
  exact ⟨hbegun, hover⟩

/-- A signal that begins after that of a finalize is due for a command that was accepted after the
finalize was. -/
theorem Reachable.mem_commits_of_began (h : Reachable first p) {earlier later start : Journal}
    {accepted : Note} {other : CallId} {signal : Signal}
    (haccepted : accepted.finalize? = some call)
    (hwritten : earlier ++ accepted :: later ++ start ++ [.began other signal] <+: p.journal)
    (hbegun : (earlier ++ accepted :: later).hasBegun call = true)
    (hmem : (other, signal) ∈ (earlier ++ accepted :: later).commits) :
    (other, signal) ∈ later.commits := by
  obtain ⟨hnew, hrunning⟩ := h.beginsOnce hwritten
  have hbefore : earlier ++ accepted :: later <+: p.journal := by
    rw [List.append_assoc] at hwritten
    exact (List.prefix_append ..).trans hwritten
  obtain ⟨due, hdue⟩ := commit?_of_finalize? haccepted
  have hcommits : commits (earlier ++ accepted :: later) =
      earlier.commits ++ (call, due) :: later.commits := commits_append_cons hdue
  rw [hcommits, List.mem_append, List.mem_cons] at hmem
  rcases hmem with hmem | heq | hmem
  · -- what was accepted before the finalize is over when its signal begins
    exfalso
    obtain ⟨soon, late, hsplit⟩ := List.append_of_mem hmem
    rw [hsplit, List.append_assoc, List.cons_append] at hcommits
    have hnodup := h.ordered.nodup_commits h.queued |>.sublist
      ((hbefore.filterMap Note.commit?).sublist.map Prod.fst)
    obtain ⟨moment, _, hmoment, hover⟩ := exists_prefix_isOver (h.beginsInTurn.mono hbefore) hnodup
      hcommits (List.mem_append_right late (List.mem_cons_self ..)) hbegun
    rw [isOver_mono ((List.prefix_append ..).trans (hmoment.trans (List.prefix_append ..))) hover]
      at hrunning
    cases hrunning
  · obtain ⟨rfl, _⟩ := Prod.mk.inj heq
    rw [hasBegun_append, hbegun] at hnew
    cases hnew
  · exact hmem

/-- A finalize that completes was accepted, and its signal has begun. -/
theorem Reachable.accepted_of_completing (h : Reachable first p) {outcome : Outcome}
    (hwritten : before ++ [.applied call .completeFinalize current now outcome] <+: p.journal) :
    before.any (·.finalize? = some call) = true ∧ before.hasBegun call = true := by
  obtain ⟨earlier, _, accepted, _, rfl, haccepted, habout⟩ := h.exists_completing hwritten
  constructor
  · have hmem : accepted ∈ earlier.about call := by simp [habout]
    exact List.any_eq_true.mpr ⟨accepted, List.mem_append_left _ (List.mem_of_mem_filter hmem),
      decide_eq_true haccepted⟩
  · rw [hasBegun_append, ← hasBegun_about, habout]
    simp [hasBegun]

/-- What has begun its signal was accepted; after a migration has become finalized, it was so before. -/
theorem Reachable.mem_commits_of_finalized (h : Reachable first p) {later : Journal} {other : CallId}
    {signal : Signal} (hwritten : before ++ later ++ [.began other signal] <+: p.journal)
    (hstate : (first.afterAll before.applications).state = .finalized) :
    (other, signal) ∈ before.commits := by
  obtain ⟨_, _, _, hcommits, _⟩ := h.beginsInTurn _ _ hwritten _ _ rfl
  have hnone := commits_eq_nil_of_finalized
    (h.linear.inTurn.mono ((List.prefix_append ..).trans hwritten)) hstate
  rw [commits_append, hnone, List.append_nil] at hcommits
  rw [hcommits]
  simp

/-- **After a completed cutover only what stood in the queue is signalled**, in every run from any
snapshot.  Once a migration becomes finalized, no rule is accepted any more but that history was lost, and
a signal that begins later is due for a command that was accepted before, after the finalize that
completes.  If no failure was accepted since that finalize was, this command is a finalize that asked for
the cutover once more while the migration was finalizing. -/
theorem signals_after_completion (h : Reachable first p) {rule : Rule} {next : Snapshot}
    (hwritten : p.journal = before ++ .applied call rule current now (.moved next) :: after)
    (hcurrent : current.state = .finalizing) (hnext : next.state = .finalized) :
    (∀ other rule current now outcome, .applied other rule current now outcome ∈ after →
      outcome.isAccepted = true → rule = .markHistoryLost) ∧
    ∀ other signal, .began other signal ∈ after →
      ∃ (earlier : Journal) (accepted : Note) (later : Journal), before = earlier ++ accepted :: later ∧
        accepted.finalize? = some call ∧ (other, signal) ∈ later.commits ∧
        (before.isOvertaken call = false → ∃ ignoreHistoryLost current now,
          .applied other (.beginFinalize ignoreHistoryLost) current now .kept ∈ later ∧
            current.state = .finalizing ∧ signal = .finalize ignoreHistoryLost) := by
  have hsplit : p.journal =
      before ++ [.applied call rule current now (.moved next)] ++ after := by simp [hwritten]
  have hcompletes : before ++ [.applied call rule current now (.moved next)] <+: p.journal :=
    ⟨after, hsplit.symm⟩
  have hinTurn := h.linear.inTurn
  obtain ⟨_, haccepts, hafter⟩ := afterAll_applied (hinTurn.mono hcompletes) rfl
  obtain rfl := haccepts.eq_completeFinalize hcurrent hnext
  have hfinalized : (first.afterAll (applications
      (before ++ [.applied call .completeFinalize current now (.moved next)]))).state =
        .finalized := by rw [hafter]; exact hnext
  rw [hsplit] at hinTurn
  refine ⟨fun other rule current now outcome hmem haccepted =>
    eq_markHistoryLost_of_finalized hinTurn hfinalized hmem haccepted, fun other signal hbegan => ?_⟩
  obtain ⟨hany, hbegun⟩ := h.accepted_of_completing hcompletes
  obtain ⟨earlier, accepted, later, rfl, hcall, _, hsince⟩ := exists_since hany
  rw [decide_eq_true_eq] at hcall
  -- the signal is due for a command accepted before the completion, as none was accepted after it
  obtain ⟨soon, late, rfl⟩ := List.append_of_mem hbegan
  have hbegin : earlier ++ accepted :: later ++
      [.applied call .completeFinalize current now (.moved next)] ++ soon ++ [.began other signal] <+:
        p.journal := ⟨late, by simp [hwritten]⟩
  have hmem := h.mem_commits_of_finalized hbegin hfinalized
  rw [commits_append, List.mem_append, or_iff_left (by simp [commits, Note.commit?, Rule.signal?])]
    at hmem
  have hlater : (other, signal) ∈ commits later := by
    rw [List.append_assoc _ _ soon] at hbegin
    exact h.mem_commits_of_began hcall hbegin hbegun hmem
  refine ⟨earlier, accepted, later, rfl, hcall, hlater, fun hovertaken => ?_⟩
  rw [isOvertaken, hsince, List.any_cons, Bool.or_eq_false_iff] at hovertaken
  have htaken : Throughout (AppliedInTurn first) (earlier ++ [accepted] ++ later) := by
    simpa using h.linear.inTurn.mono ((List.prefix_append ..).trans hcompletes)
  exact retry_of_not_acceptsFailure htaken
    (state_of_finalize? (throughout_append.mp htaken).1 hcall) hovertaken.2 hlater

/-- The cutover is asked for once more while its signal is in progress.  The signal that is left when the
migration has become finalized is that of the second finalize. -/
theorem signals_after_completion_of_retried_cutover :
    ∃ p, (idle (.fresh default)).runAll (atOnce default
        [.make (.start [] []), .run 0, .finish 0 none, .make (.finalize false), .run 1,
          .make (.finalize false), .run 2, .finish 1 none, .wake 2]) = some p ∧
      (∃ current now next, p.journal = p.journal.take 15 ++
          .applied 1 .completeFinalize current now (.moved next) :: p.journal.drop 16 ∧
        current.state = .finalizing ∧ next.state = .finalized ∧
        isOvertaken (p.journal.take 15) 1 = false ∧
        .began 2 (.finalize false) ∈ p.journal.drop 16) ∧
      ∃ ignoreHistoryLost current now,
        .applied 2 (.beginFinalize ignoreHistoryLost) current now .kept ∈ p.journal.take 15 ∧
          current.state = .finalizing ∧ Signal.finalize false = .finalize ignoreHistoryLost :=
  exists_run_and
    (fun _ hrun ⟨_, _, _, hwritten, hcurrent, hnext, hovertaken, hbegan⟩ => by
      obtain ⟨earlier, accepted, later, hsplit, _, _, hretry⟩ :=
        (signals_after_completion ⟨_, hrun⟩ hwritten hcurrent hnext).2 _ _ hbegan
      obtain ⟨ignoreHistoryLost, current, now, hmem, hretry⟩ := hretry hovertaken
      refine ⟨ignoreHistoryLost, current, now, ?_, hretry⟩
      rw [hsplit]
      exact List.mem_append_right _ (List.mem_cons_of_mem _ hmem))
    ⟨_, rfl, _, _, _, rfl, rfl, rfl, rfl, .tail _ (.tail _ (.tail _ (.head _)))⟩

/-- A second finalize is accepted while the cutover of the first is in progress.  Its signal begins once the
migration has become finalized by the first, so the cutover is signalled twice. -/
theorem cutover_signalled_after_completion :
    ∃ p, (idle (.fresh default)).runAll (atOnce default
        [.make (.start [] []), .run 0, .finish 0 none, .make (.finalize false), .run 1,
          .make (.finalize false), .run 2, .finish 1 none, .wake 2]) = some p ∧
      p.journal.signals = [(0, .start {}), (1, .finalize false), (2, .finalize false)] ∧
      ∃ current now next, p.journal = p.journal.take 15 ++
          .applied 1 .completeFinalize current now (.moved next) :: p.journal.drop 16 ∧
        current.state = .finalizing ∧ next.state = .finalized ∧
        .began 2 (.finalize false) ∈ p.journal.drop 16 :=
  ⟨_, rfl, rfl, _, _, _, rfl, rfl, rfl, .tail _ (.tail _ (.tail _ (.head _)))⟩

end ControlPlane

end Cutover
