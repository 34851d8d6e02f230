import Cutover.Lifecycle.Rule

/-!
# Commands, signals and results

A command asks for a change of the migration.  Once the change is accepted, the apply engine is told of it
by a signal; reports come from the engine itself and are not signalled back.  A command ends with a
result.
-/

namespace Cutover

/-- A command to the control plane. -/
inductive Command where
  | start (included excluded : List Json)
  | pause
  | resume (fromFailure : Bool)
  | finalize (ignoreHistoryLost : Bool)
  | reportFailure (reason : Json)
  | reportHistoryLost
  deriving BEq, Repr

/-- What the apply engine is told after a change. -/
inductive Signal where
  | start (scope : Filter)
  | pause
  | resume (fromFailure : Bool)
  | finalize (ignoreHistoryLost : Bool)
  deriving BEq, Repr

namespace Command

/-- The name of a command. -/
def name : Command → String
  | .start .. => "start"
  | .pause => "pause"
  | .resume _ => "resume"
  | .finalize _ => "finalize"
  | .reportFailure _ => "fail"
  | .reportHistoryLost => "history_lost"

/-- The rule with which a command begins. -/
def rule : Command → Rule
  | .start included excluded => .start included excluded
  | .pause => .pause
  | .resume fromFailure => .resume fromFailure
  | .finalize ignoreHistoryLost => .beginFinalize ignoreHistoryLost
  | .reportFailure reason => .fail reason
  | .reportHistoryLost => .markHistoryLost

/-- The signal of an accepted command, given the snapshot it has led to. -/
def signal? (accepted : Snapshot) : Command → Option Signal
  | .start .. => some (.start (accepted.filter.getD {}))
  | .pause => some .pause
  | .resume fromFailure => some (.resume fromFailure)
  | .finalize ignoreHistoryLost => some (.finalize ignoreHistoryLost)
  | .reportFailure _ => none
  | .reportHistoryLost => none

/-- Whether the command is a finalize, which changes the state once more after its signal. -/
def isFinalize : Command → Bool
  | .finalize _ => true
  | _ => false

end Command

namespace Signal

/-- The name of a signal. -/
def name : Signal → String
  | .start _ => "start"
  | .pause => "pause"
  | .resume _ => "resume"
  | .finalize _ => "finalize"

/-- The argument of a signal as a value. -/
def argument : Signal → Json
  | .start scope => .obj scope.payload
  | .pause => .null
  | .resume fromFailure => .bool fromFailure
  | .finalize ignoreHistoryLost => .bool ignoreHistoryLost

end Signal

/-- The result of a command. -/
structure CommandResult where
  command : String
  /-- The snapshot that the result speaks of. -/
  snapshot : Snapshot
  /-- Why the command was rejected. -/
  error : Option Rejection := none
  /-- Why the apply engine did not take the signal of the accepted command. -/
  signalError : Option String := none
  /-- Why an accepted finalize could not complete after its signal. -/
  superseded : Option Rejection := none
  deriving BEq, Repr

namespace CommandResult

/-- Whether the command was accepted. -/
def isOk (result : CommandResult) : Bool :=
  result.error.isNone

/-- The failure of the signal of an accepted command. -/
def signalFailure? (result : CommandResult) : Option Failure :=
  result.signalError.map fun cause => ⟨.engineSignal (.str result.command) cause, "", []⟩

end CommandResult

end Cutover
