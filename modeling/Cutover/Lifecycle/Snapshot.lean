import Cutover.Lifecycle.State
import Cutover.Namespace.Filter
import Cutover.Time.Timestamp

/-!
# Snapshots of a migration

A snapshot is everything that is known of a migration at one moment: its state, its scope, why it failed,
whether history of the source was lost, and the record of every change of state.  A snapshot is never
changed; each change makes a new one.  Main statements: `Snapshot.history_moveTo`, a change of state adds
one record, and `Snapshot.state_moveTo`, it leads to the state asked for.
-/

namespace Cutover

/-- The record of a change of state. -/
structure Record where
  command : String
  source : State
  target : State
  timestamp : Timestamp
  detail : Fields
  deriving BEq, Repr

/-- What is known of a migration at one moment. -/
structure Snapshot where
  state : State
  filter : Option Filter
  /-- The reason of the failure that the migration is in, as it was reported. -/
  failureReason : Json
  /-- Whether the source has lost history that a consistent cutover needs. -/
  historyLost : Bool
  history : List Record
  updatedAt : Timestamp
  deriving BEq, Repr

namespace Snapshot

/-- A migration that has not been started. -/
def fresh (now : Timestamp) : Snapshot where
  state := .idle
  filter := none
  failureReason := .null
  historyLost := false
  history := []
  updatedAt := now

/-- The snapshot after a recorded change of state.  A reason of failure is kept only by a change to the
failed state. -/
def moveTo (s : Snapshot) (command : String) (target : State) (detail : Fields) (now : Timestamp) :
    Snapshot :=
  { s with
    state := target
    failureReason := if target = .failed then s.failureReason else .null
    history := s.history ++ [⟨command, s.state, target, now, detail⟩]
    updatedAt := now }

/-- The snapshot after a report that history was lost. -/
def withHistoryLost (s : Snapshot) (now : Timestamp) : Snapshot :=
  { s with historyLost := true, updatedAt := now }

@[simp] theorem state_moveTo (s : Snapshot) (command : String) (target : State) (detail : Fields)
    (now : Timestamp) : (s.moveTo command target detail now).state = target := rfl

/-- A change of state adds one record. -/
theorem history_moveTo (s : Snapshot) (command : String) (target : State) (detail : Fields)
    (now : Timestamp) :
    (s.moveTo command target detail now).history =
      s.history ++ [⟨command, s.state, target, now, detail⟩] := rfl

@[simp] theorem historyLost_moveTo (s : Snapshot) (command : String) (target : State)
    (detail : Fields) (now : Timestamp) :
    (s.moveTo command target detail now).historyLost = s.historyLost := rfl

@[simp] theorem filter_moveTo (s : Snapshot) (command : String) (target : State) (detail : Fields)
    (now : Timestamp) : (s.moveTo command target detail now).filter = s.filter := rfl

end Snapshot

end Cutover
