import Cutover.Lifecycle.Rule
import Mathlib.Tactic.SplitIfs

/-!
# What a rule accepts

`Accepts s now rule outcome` lists the changes that the rules allow, each with the states in which it is
allowed and the outcome written out, and `Rule.accepts` says that a rule accepts nothing else.  What
later proofs need of the rules is read off this list: which states a change leads between, and that no
rule but the completion of a cutover leads to the finalized state.
-/

namespace Cutover

variable {s : Snapshot} {now : Timestamp} {rule : Rule} {outcome : Outcome}

/-- The changes that the rules allow. -/
inductive Accepts (s : Snapshot) (now : Timestamp) : Rule → Outcome → Prop
  | start {included excluded : List Json} {filter : Filter} (hstate : s.state = .idle)
      (hfilter : Filter.build included excluded = .ok filter) :
    Accepts s now (.start included excluded)
      (.moved { s.moveTo "start" .running filter.payload now with filter := some filter })
  | pause (hstate : s.state = .running) :
    Accepts s now .pause (.moved (s.moveTo "pause" .paused [] now))
  | resume (hstate : s.state = .paused) :
    Accepts s now (.resume false) (.moved (s.moveTo "resume" .running [] now))
  | recover (hstate : s.state = .failed) :
    Accepts s now (.resume true)
      (.moved (s.moveTo "resume" .running
        [("from_failure", .bool true), ("failure_reason", s.failureReason)] now))
  | finalize {ignoreHistoryLost : Bool} (hstate : s.state = .running ∨ s.state = .paused)
      (hlost : s.historyLost = true → ignoreHistoryLost = true) :
    Accepts s now (.beginFinalize ignoreHistoryLost)
      (.moved (s.moveTo "finalize" .finalizing
        (if s.historyLost then [("ignore_history_lost", .bool true)] else []) now))
  | retry {ignoreHistoryLost : Bool} (hstate : s.state = .finalizing)
      (hlost : s.historyLost = true → ignoreHistoryLost = true) :
    Accepts s now (.beginFinalize ignoreHistoryLost) .kept
  | complete (hstate : s.state = .finalizing) :
    Accepts s now .completeFinalize (.moved (s.moveTo "finalize" .finalized [] now))
  | fail {reason : Json}
      (hstate : s.state = .running ∨ s.state = .paused ∨ s.state = .finalizing) :
    Accepts s now (.fail reason)
      (.moved { s.moveTo "fail" .failed [("reason", reason)] now with failureReason := reason })
  | loseHistory (hlost : s.historyLost = false) :
    Accepts s now .markHistoryLost (.moved (s.withHistoryLost now))
  | loseNothing (hlost : s.historyLost = true) :
    Accepts s now .markHistoryLost .kept

theorem Rule.isAllowed_iff {name : Rule.Name} {state : State} :
    Rule.isAllowed name state = true ↔ state ∈ Rule.sources name := by
  rw [Rule.isAllowed, List.contains_iff_mem]

/-- A rule accepts nothing else. -/
theorem Rule.accepts (h : (rule.apply s now).isAccepted = true) :
    Accepts s now rule (rule.apply s now) := by
  cases rule with
  | start included excluded =>
    simp only [apply, Snapshot.start] at h ⊢
    split_ifs at h ⊢ with hallowed
    · cases hfilter : Filter.build included excluded with
      | error entries => rw [hfilter] at h; cases h
      | ok filter => exact .start (by simpa [isAllowed_iff, sources] using hallowed) hfilter
    · cases h
  | pause =>
    simp only [apply, Snapshot.pause] at h ⊢
    split_ifs at h ⊢ with hallowed
    · exact .pause (by simpa [isAllowed_iff, sources] using hallowed)
    · cases h
  | resume fromFailure =>
    cases fromFailure with
    | false =>
      simp only [apply, Snapshot.resumePaused] at h ⊢
      split_ifs at h ⊢ with hallowed
      · exact .resume (by simpa [isAllowed_iff, sources] using hallowed)
      · cases h
      · cases h
    | true =>
      simp only [apply, Snapshot.resumeFailed] at h ⊢
      split_ifs at h ⊢ with hallowed
      · exact .recover (by simpa [isAllowed_iff, sources] using hallowed)
      · cases h
  | beginFinalize ignoreHistoryLost =>
    simp only [apply, Snapshot.beginFinalize] at h ⊢
    generalize hdetail : (if s.historyLost then _ else _) = detail at h ⊢
    split_ifs at h ⊢ with hallowed hlost hstate
    · cases h
    · cases h
    · exact .retry hstate (by simpa using hlost)
    · rw [← hdetail]
      refine .finalize ?_ (by simpa using hlost)
      simpa [isAllowed_iff, sources, hstate] using hallowed
  | completeFinalize =>
    simp only [apply, Snapshot.completeFinalize] at h ⊢
    split_ifs at h ⊢ with hallowed
    · exact .complete (by simpa [isAllowed_iff, sources] using hallowed)
    · cases h
  | fail reason =>
    simp only [apply, Snapshot.fail] at h ⊢
    split_ifs at h ⊢ with hallowed
    · exact .fail (by simpa [isAllowed_iff, sources] using hallowed)
    · cases h
  | markHistoryLost =>
    simp only [apply, Snapshot.markHistoryLost] at h ⊢
    split_ifs at h ⊢ with hlost
    · exact .loseNothing hlost
    · exact .loseHistory (by simpa using hlost)

/-- The report of a loss is never rejected. -/
theorem Rule.isAccepted_markHistoryLost : (markHistoryLost.apply s now).isAccepted = true := by
  rw [apply, Snapshot.markHistoryLost]
  split_ifs <;> rfl

end Cutover
