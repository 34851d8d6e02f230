import Cutover.ControlPlane.Command
import Cutover.Protocol.Request

/-!
# Responses

The answers to the commands: whether a command was accepted and what came of it, and the status of the
migration.  Optional fields without a value are left out of the wire form.
-/

namespace Cutover

open Checked

/-- The answer to a command that changes the migration. -/
structure CommandResponse where
  ok : Bool
  error : Option String := none
  errorCode : Option String := none
  signalError : Option String := none
  superseded : Option String := none
  deriving DecidableEq, Repr

namespace CommandResponse

/-- The name of the answer in a message. -/
def title : String := "CommandResponse"

/-- The names of its fields. -/
def okNames : String × String := ("ok", "ok")
def errorNames : String × String := ("error", "error")
def errorCodeNames : String × String := ("errorCode", "error_code")
def signalErrorNames : String × String := ("signalError", "signal_error")
def supersededNames : String × String := ("superseded", "superseded")

/-- The answer read from a value. -/
def check (value : Json) : Checked CommandResponse :=
  (model title value).bind fun fields =>
    (((((requiredField flag fields okNames).map CommandResponse.mk).and
      (optionalField optionalText none fields errorNames)).and
      (optionalField optionalText none fields errorCodeNames)).and
      (optionalField optionalText none fields signalErrorNames)).and
      (optionalField optionalText none fields supersededNames)

/-- The members of the answer, under names picked by `pick`. -/
def fields (pick : String × String → String) (r : CommandResponse) : Fields :=
  [(pick okNames, .bool r.ok), (pick errorNames, .ofText? r.error),
    (pick errorCodeNames, .ofText? r.errorCode), (pick signalErrorNames, .ofText? r.signalError),
    (pick supersededNames, .ofText? r.superseded)]

/-- The wire form of the answer. -/
def wire (r : CommandResponse) : Json :=
  .obj (r.fields Prod.fst).given

/-- The answer made of the failures of a command: a rejection hides the others. -/
def ofFailures : (error signalError superseded : Option Failure) → CommandResponse
  | some error, _, _ =>
    { ok := false, error := some error.message, errorCode := some error.code }
  | none, signalError, superseded =>
    { ok := true, signalError := signalError.map (·.message)
      superseded := superseded.map (·.message) }

/-- The answer that a result gives. -/
def ofResult (result : CommandResult) : CommandResponse :=
  ofFailures (result.error.map (·.failure)) result.signalFailure?
    (result.superseded.map (·.failure))

end CommandResponse

/-- The answer to a status request. -/
structure StatusResponse where
  ok : Bool := true
  state : State
  error : Option String := none
  historyLost : Bool := false
  included : List String := []
  excluded : List String := []
  updatedAt : Option Timestamp := none
  deriving DecidableEq, Repr

namespace StatusResponse

/-- The name of the answer in a message. -/
def title : String := "StatusResponse"

/-- The names of its fields. -/
def okNames : String × String := ("ok", "ok")
def stateNames : String × String := ("state", "state")
def errorNames : String × String := ("error", "error")
def historyLostNames : String × String := ("historyLost", "history_lost")
def updatedAtNames : String × String := ("updatedAt", "updated_at")

/-- The answer read from a value. -/
def check (value : Json) : Checked StatusResponse :=
  (model title value).bind fun fields =>
    (((((((optionalField flag true fields okNames).map StatusResponse.mk).and
      (requiredField State.check fields stateNames)).and
      (optionalField optionalText none fields errorNames)).and
      (optionalField flag false fields historyLostNames)).and
      (optionalField texts [] fields includeNames)).and
      (optionalField texts [] fields excludeNames)).and
      (optionalField optionalTimestamp none fields updatedAtNames)

/-- The members of the answer, under names picked by `pick`. -/
def fields (pick : String × String → String) (r : StatusResponse) : Fields :=
  [(pick okNames, .bool r.ok), (pick stateNames, r.state.toJson),
    (pick errorNames, .ofText? r.error), (pick historyLostNames, .bool r.historyLost),
    (pick includeNames, .ofTexts r.included), (pick excludeNames, .ofTexts r.excluded),
    (pick updatedAtNames, .ofText? (r.updatedAt.map (·.wireText)))]

/-- The wire form of the answer. -/
def wire (r : StatusResponse) : Json :=
  .obj (r.fields Prod.fst).given

/-- The status of a migration.  It can be told only if the reason of a failure is a text. -/
def ofSnapshot (s : Snapshot) : Checked StatusResponse :=
  ((optionalText s.failureReason).under (.member "error")).map fun error =>
    { state := s.state
      error := error
      historyLost := s.historyLost
      included := (s.filter.map fun f => f.included.map (·.text)).getD []
      excluded := (s.filter.map fun f => f.excluded.map (·.text)).getD []
      updatedAt := some s.updatedAt }

end StatusResponse

end Cutover
