import Cutover.Json.Basic

/-!
# States of a migration

A migration waits to be started, copies and applies changes, may be paused, and ends by a cutover in two
steps; the apply engine may report that it failed.

```
idle → running ⇄ paused        running, paused → finalizing → finalized
running, paused, finalizing → failed → running
```
-/

namespace Cutover

/-- The state of a migration. -/
inductive State where
  | idle
  | running
  | paused
  | finalizing
  | finalized
  | failed
  deriving DecidableEq, Repr, Inhabited

namespace State

/-- All states, in the order of a migration's life. -/
def all : List State := [.idle, .running, .paused, .finalizing, .finalized, .failed]

/-- The name of a state. -/
def name : State → String
  | .idle => "idle"
  | .running => "running"
  | .paused => "paused"
  | .finalizing => "finalizing"
  | .finalized => "finalized"
  | .failed => "failed"

/-- The state with a name. -/
def ofName? (name : String) : Option State :=
  all.find? (·.name = name)

/-- The names of all states as a message lists them. -/
def choices : String :=
  "'idle', 'running', 'paused', 'finalizing', 'finalized' or 'failed'"

/-- Whether a migration in this state is over. -/
def isTerminal (state : State) : Bool :=
  state = .finalized

/-- A state as a value. -/
def toJson (state : State) : Json :=
  .str state.name

/-- A name leads back to its state. -/
@[simp] theorem ofName?_name (state : State) : ofName? state.name = some state := by
  cases state <;> decide

end State

end Cutover
