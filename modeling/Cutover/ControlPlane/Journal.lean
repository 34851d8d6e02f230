import Cutover.Audit.Event
import Cutover.ControlPlane.Command
import Cutover.Log.Level

/-!
# The journal of a control plane

Everything that happens in a control plane, in the order in which it happens: calls made, rules applied,
signals begun and ended, calls cancelled and answered, and the lines written to the log and to the audit
trail.  The views `applications`, `signals`, `audit` and `log` pick out one kind of entry each.
-/

namespace Cutover

/-- Calls are numbered in the order in which they are made. -/
abbrev CallId := Nat

/-- An entry of the journal. -/
inductive Note where
  /-- A call was made. -/
  | called (call : CallId) (command : Command)
  /-- A rule was applied for a call to the snapshot that was current. -/
  | applied (call : CallId) (rule : Rule) (before : Snapshot) (now : Timestamp) (outcome : Outcome)
  /-- The signal of a call began. -/
  | began (call : CallId) (signal : Signal)
  /-- The signal of a call ended: it returned, or failed for a reason. -/
  | ended (call : CallId) (failure : Option String)
  /-- A call was cancelled. -/
  | cancelled (call : CallId)
  /-- A call was answered. -/
  | answered (call : CallId) (result : CommandResult)
  /-- A line was written to the log. -/
  | logged (line : Log.Line)
  /-- An event was written to the audit trail. -/
  | audited (event : Audit.Event)
  deriving BEq, Repr

/-- What has happened, first things first. -/
abbrev Journal := List Note

/-- A rule that was applied for a call. -/
structure Application where
  call : CallId
  rule : Rule
  /-- The snapshot that was current. -/
  before : Snapshot
  now : Timestamp
  outcome : Outcome
  deriving BEq, Repr

namespace Journal

/-- The rules that were applied, each with its call and what it gave. -/
def applications (journal : Journal) : List Application :=
  journal.filterMap fun
    | .applied call rule before now outcome => some ⟨call, rule, before, now, outcome⟩
    | _ => none

/-- The signals that have begun. -/
def signals (journal : Journal) : List (CallId × Signal) :=
  journal.filterMap fun
    | .began call signal => some (call, signal)
    | _ => none

/-- The events of the audit trail. -/
def audit (journal : Journal) : List Audit.Event :=
  journal.filterMap fun
    | .audited event => some event
    | _ => none

/-- The lines of the log. -/
def log (journal : Journal) : List Log.Line :=
  journal.filterMap fun
    | .logged line => some line
    | _ => none

/-- Whether some rule has led to another snapshot. -/
def moves (journal : Journal) : Bool :=
  journal.any fun
    | .applied _ _ _ _ (.moved _) => true
    | _ => false

theorem applications_append (a b : Journal) :
    applications (a ++ b) = applications a ++ applications b := by simp [applications]

theorem signals_append (a b : Journal) : signals (a ++ b) = signals a ++ signals b := by
  simp [signals]

theorem audit_append (a b : Journal) : audit (a ++ b) = audit a ++ audit b := by simp [audit]

theorem log_append (a b : Journal) : log (a ++ b) = log a ++ log b := by simp [log]

end Journal

end Cutover
