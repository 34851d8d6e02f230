import Cutover.Json.Display

/-!
# Failures

What can go wrong in the control plane: a cause, which gives the wording, and the code and details under
which the failure is reported.  A failure has the code and the details it was given, or else the name of
its kind and what its cause holds.  Main statements: `Failure.code_of_given` and
`Failure.details_pattern`, the details of a bad pattern name it unless they were given otherwise.
-/

namespace Cutover

namespace Failure

/-- Why something failed. -/
inductive Cause where
  /-- A failure that is described by its message only. -/
  | general (message : String)
  /-- An entry that is no namespace pattern, the reason if there is one, and all bad entries. -/
  | invalidPattern (pattern reason : Json) (invalid : List Json)
  /-- A command that the state does not allow, with a wording of its own if there is one. -/
  | invalidTransition (command state : Json) (wording : Option String)
  /-- A start of a migration that has left the idle state. -/
  | alreadyStarted (state : Json)
  /-- A finalize that would lose changes, with a wording of its own if there is one. -/
  | historyLost (wording : Option String)
  /-- A signal that the apply engine did not take. -/
  | engineSignal (command : Json) (cause : String)
  | configuration (message : String)
  | connection (message : String)
  /-- A report of an engine that belongs to no controller. -/
  | engineNotAttached (message : String)
  deriving BEq, Repr

namespace Cause

/-- The name of the kind of a cause. -/
def name : Cause → String
  | .general _ => "MigrationControlError"
  | .invalidPattern .. => "InvalidPatternError"
  | .invalidTransition .. => "InvalidTransitionError"
  | .alreadyStarted _ => "AlreadyStartedError"
  | .historyLost _ => "HistoryLostError"
  | .engineSignal .. => "EngineSignalError"
  | .configuration _ => "ConfigurationError"
  | .connection _ => "ControlPlaneConnectionError"
  | .engineNotAttached _ => "EngineNotAttachedError"

/-- The kinds that a cause belongs to, from the narrowest to the widest. -/
def kinds : Cause → List String
  | .general message => [name (.general message)]
  | .alreadyStarted state =>
    [name (.alreadyStarted state), "InvalidTransitionError", "MigrationControlError"]
  | cause => [cause.name, "MigrationControlError"]

/-- The wording of a cause. -/
def message : Cause → String
  | .general message => message
  | .invalidPattern pattern reason _ =>
    let message := "Invalid namespace pattern '" ++ pattern.displayText ++ "'"
    if reason.isTruthy then message ++ ": " ++ reason.displayText else message
  | .invalidTransition _ _ (some wording) => wording
  | .invalidTransition command state none =>
    "Cannot " ++ command.displayText ++ " migration in state '" ++ state.displayText ++ "'"
  | .alreadyStarted state => "Migration already started (state '" ++ state.displayText ++ "')"
  | .historyLost (some wording) => wording
  | .historyLost none =>
    "Source history required for a consistent cutover is lost; " ++
      "finalize with ignore-history-lost to override"
  | .engineSignal command cause =>
    "Failed to signal apply engine for " ++ command.displayText ++ ": " ++ cause
  | .configuration message => message
  | .connection message => message
  | .engineNotAttached message => message

/-- Details completed by what a cause holds. -/
def complete : Cause → Fields → Fields
  | .invalidPattern pattern _ invalid, details =>
    let details := details.setDefault "pattern" pattern
    if invalid.isEmpty then details else details.set "invalid" (.arr invalid)
  | .invalidTransition command state _, details =>
    (details.setDefault "command" command).setDefault "state" state
  | .alreadyStarted state, details =>
    (details.setDefault "command" (.str "start")).setDefault "state" state
  | .engineSignal command _, details => details.setDefault "command" command
  | _, details => details

end Cause

end Failure

/-- A failure: its cause, and the code and details it was given. -/
structure Failure where
  cause : Failure.Cause
  givenCode : String := ""
  givenDetails : Fields := []
  deriving BEq, Repr

namespace Failure

/-- The wording of a failure. -/
def message (failure : Failure) : String :=
  failure.cause.message

/-- The code of a failure: the one given, or the name of its kind. -/
def code (failure : Failure) : String :=
  if failure.givenCode = "" then failure.cause.name else failure.givenCode

/-- The details of a failure: those given, completed by what its cause holds. -/
def details (failure : Failure) : Fields :=
  failure.cause.complete failure.givenDetails

theorem code_of_given {failure : Failure} (h : failure.givenCode ≠ "") :
    failure.code = failure.givenCode := by
  simp [code, h]

/-- The details of a bad pattern name it, unless they were given otherwise. -/
theorem details_pattern (pattern reason : Json) (code : String) (given : Fields) :
    (details ⟨.invalidPattern pattern reason [], code, given⟩).get? "pattern" =
      some ((given.get? "pattern").getD pattern) := by
  simp [details, Cause.complete, Fields.get?_setDefault]

end Failure

end Cutover
