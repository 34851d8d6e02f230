import Cutover.Failure
import Cutover.Lifecycle.Snapshot

/-!
# The rules of the lifecycle

A rule takes a snapshot to the next one, keeps it, or rejects the change for a reason.  Rules are pure:
what they give depends on the snapshot, their arguments and the time alone.  Main statement:
`Rule.history_prefix`, no rule takes a record back.
-/

namespace Cutover

/-- Why a rule rejects a change. -/
inductive Rejection where
  /-- A start of a migration that has left the idle state. -/
  | alreadyStarted (state : State)
  /-- Lists of namespaces that hold entries which are no patterns. -/
  | badScope (entries : BadEntries)
  /-- A command that the state does not allow. -/
  | notAllowed (command : String) (state : State)
  /-- A plain resume of a failed migration. -/
  | resumeOfFailed
  /-- A resume from failure of a migration that has not failed. -/
  | recoveryOfHealthy (state : State)
  /-- A finalize although history was lost. -/
  | historyLost
  deriving BEq, Repr

/-- The failure under which a rejection is reported. -/
def Rejection.failure : Rejection → Failure
  | .alreadyStarted state => ⟨.alreadyStarted state.toJson, "", []⟩
  | .badScope entries =>
    ⟨.invalidPattern entries.first (.str entries.fault.message) (entries.shown.map .str), "", []⟩
  | .notAllowed command state => ⟨.invalidTransition (.str command) state.toJson none, "", []⟩
  | .resumeOfFailed =>
    ⟨.invalidTransition (.str "resume") State.failed.toJson
      (some "Cannot resume a failed migration without from-failure"), "", []⟩
  | .recoveryOfHealthy state =>
    ⟨.invalidTransition (.str "resume") state.toJson
      (some ("Cannot resume from failure in state '" ++ state.name ++
        "'; from-failure is only valid for a failed migration")), "", []⟩
  | .historyLost => ⟨.historyLost none, "", []⟩

/-- The wording of a rejection. -/
def Rejection.message (rejection : Rejection) : String :=
  rejection.failure.message

/-- What a rule gives. -/
inductive Outcome where
  /-- The change is rejected; the snapshot stays. -/
  | rejected (rejection : Rejection)
  /-- The rule is satisfied by the snapshot as it is. -/
  | kept
  /-- The next snapshot. -/
  | moved (next : Snapshot)
  deriving BEq, Repr

namespace Outcome

/-- Whether the rule was accepted. -/
def isAccepted : Outcome → Bool
  | .rejected _ => false
  | _ => true

/-- The reason of a rejection. -/
def rejection? : Outcome → Option Rejection
  | .rejected rejection => some rejection
  | _ => none

/-- The snapshot that is current after the rule. -/
def after (current : Snapshot) : Outcome → Snapshot
  | .moved next => next
  | _ => current

end Outcome

/-- A rule of the lifecycle with its arguments. -/
inductive Rule where
  | start (included excluded : List Json)
  | pause
  | resume (fromFailure : Bool)
  | beginFinalize (ignoreHistoryLost : Bool)
  | completeFinalize
  | fail (reason : Json)
  | markHistoryLost
  deriving BEq, Repr

namespace Rule

/-- The rules by the name under which their source states are known. -/
inductive Name where
  | completeFinalize
  | fail
  | finalize
  | pause
  | resume
  | resumeFromFailure
  | start
  deriving DecidableEq, Repr

/-- The states in which a rule is accepted. -/
def sources : Name → List State
  | .start => [.idle]
  | .pause => [.running]
  | .resume => [.paused]
  | .resumeFromFailure => [.failed]
  | .finalize => [.running, .paused, .finalizing]
  | .completeFinalize => [.finalizing]
  | .fail => [.running, .paused, .finalizing]

/-- Whether a rule is accepted in a state. -/
def isAllowed (name : Name) (state : State) : Bool :=
  (sources name).contains state

/-- The rule as a log line names it. -/
def text : Rule → String
  | .start .. => "start"
  | .pause => "pause"
  | .resume _ => "resume"
  | .beginFinalize _ => "begin_finalize"
  | .completeFinalize => "complete_finalize"
  | .fail _ => "fail"
  | .markHistoryLost => "mark_history_lost"

end Rule

namespace Snapshot

/-- Start a migration with the scope of two lists. -/
def start (s : Snapshot) (included excluded : List Json) (now : Timestamp) : Outcome :=
  if Rule.isAllowed .start s.state then
    match Filter.build included excluded with
    | .error entries => .rejected (.badScope entries)
    | .ok filter =>
      .moved { s.moveTo "start" .running filter.payload now with filter := some filter }
  else .rejected (.alreadyStarted s.state)

/-- Suspend a running migration. -/
def pause (s : Snapshot) (now : Timestamp) : Outcome :=
  if Rule.isAllowed .pause s.state then .moved (s.moveTo "pause" .paused [] now)
  else .rejected (.notAllowed "pause" s.state)

/-- Go on with a paused migration. -/
def resumePaused (s : Snapshot) (now : Timestamp) : Outcome :=
  if Rule.isAllowed .resume s.state then .moved (s.moveTo "resume" .running [] now)
  else if s.state = .failed then .rejected .resumeOfFailed
  else .rejected (.notAllowed "resume" s.state)

/-- Go on with a failed migration. -/
def resumeFailed (s : Snapshot) (now : Timestamp) : Outcome :=
  if Rule.isAllowed .resumeFromFailure s.state then
    .moved (s.moveTo "resume" .running
      [("from_failure", .bool true), ("failure_reason", s.failureReason)] now)
  else .rejected (.recoveryOfHealthy s.state)

/-- Begin the cutover.  A migration whose cutover has begun stays as it is, so that the cutover can be
asked for again. -/
def beginFinalize (s : Snapshot) (ignoreHistoryLost : Bool) (now : Timestamp) : Outcome :=
  if !Rule.isAllowed .finalize s.state then .rejected (.notAllowed "finalize" s.state)
  else if s.historyLost && !ignoreHistoryLost then .rejected .historyLost
  else if s.state = .finalizing then .kept
  else
    .moved (s.moveTo "finalize" .finalizing
      (if s.historyLost then [("ignore_history_lost", .bool true)] else []) now)

/-- Complete the cutover. -/
def completeFinalize (s : Snapshot) (now : Timestamp) : Outcome :=
  if Rule.isAllowed .completeFinalize s.state then .moved (s.moveTo "finalize" .finalized [] now)
  else .rejected (.notAllowed "finalize" s.state)

/-- Record that the apply engine cannot go on. -/
def fail (s : Snapshot) (reason : Json) (now : Timestamp) : Outcome :=
  if Rule.isAllowed .fail s.state then
    .moved { s.moveTo "fail" .failed [("reason", reason)] now with failureReason := reason }
  else .rejected (.notAllowed "fail" s.state)

/-- Record that history was lost, once. -/
def markHistoryLost (s : Snapshot) (now : Timestamp) : Outcome :=
  if s.historyLost then .kept else .moved (s.withHistoryLost now)

end Snapshot

namespace Rule

/-- Apply a rule to a snapshot. -/
def apply (rule : Rule) (s : Snapshot) (now : Timestamp) : Outcome :=
  match rule with
  | .start included excluded => s.start included excluded now
  | .pause => s.pause now
  | .resume true => s.resumeFailed now
  | .resume false => s.resumePaused now
  | .beginFinalize ignoreHistoryLost => s.beginFinalize ignoreHistoryLost now
  | .completeFinalize => s.completeFinalize now
  | .fail reason => s.fail reason now
  | .markHistoryLost => s.markHistoryLost now

/-- Start a migration with whatever values are offered as its two lists.  There is no outcome if the
state allows a start and a value offers no entries. -/
def startWith? (included excluded : Json) (s : Snapshot) (now : Timestamp) : Option Outcome :=
  if isAllowed .start s.state then do
    let included ← included.entries?
    let excluded ← excluded.entries?
    some (s.start included excluded now)
  else some (s.start [] [] now)

/-- No rule takes a record back. -/
theorem history_prefix (rule : Rule) (s : Snapshot) (now : Timestamp) :
    s.history <+: ((rule.apply s now).after s).history := by
  cases rule with
  | start included excluded =>
    simp only [apply, Snapshot.start]
    split
    · split <;> simp [Outcome.after, Snapshot.history_moveTo]
    · simp [Outcome.after]
  | pause => simp only [apply, Snapshot.pause]; split <;> simp [Outcome.after, Snapshot.history_moveTo]
  | resume fromFailure =>
    cases fromFailure
    · simp only [apply, Snapshot.resumePaused]
      split
      · simp [Outcome.after, Snapshot.history_moveTo]
      · split <;> simp [Outcome.after]
    · simp only [apply, Snapshot.resumeFailed]
      split <;> simp [Outcome.after, Snapshot.history_moveTo]
  | beginFinalize ignoreHistoryLost =>
    simp only [apply, Snapshot.beginFinalize]
    split
    · simp [Outcome.after]
    · split
      · simp [Outcome.after]
      · split <;> simp [Outcome.after, Snapshot.history_moveTo]
  | completeFinalize =>
    simp only [apply, Snapshot.completeFinalize]
    split <;> simp [Outcome.after, Snapshot.history_moveTo]
  | fail reason =>
    simp only [apply, Snapshot.fail]
    split <;> simp [Outcome.after, Snapshot.history_moveTo]
  | markHistoryLost =>
    simp only [apply, Snapshot.markHistoryLost]
    split <;> simp [Outcome.after, Snapshot.withHistoryLost]

end Rule

end Cutover
