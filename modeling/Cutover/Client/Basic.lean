import Cutover.Json.Reader
import Cutover.Protocol.Response
import Cutover.Text.Numeral

/-!
# The client

The client sends a command to a service and reads the response.  What it sends, and how it takes what came
of the sending, are two separate functions; the sending itself lies between them.
-/

namespace Cutover.Client

open Text

/-- Where a service is reached. -/
structure Address where
  host : String := "127.0.0.1"
  port : Int := 2242
  deriving DecidableEq, Repr

/-- The beginning of every path at an address. -/
def Address.url (address : Address) : String :=
  "http://" ++ address.host ++ ":" ++ Numeral.intText address.port

/-- A command of a client, with the values offered as its arguments. -/
inductive Call where
  | start (included excluded : Json)
  | status
  | pause
  | resume (fromFailure : Json)
  | finalize (ignoreHistoryLost : Json)
  deriving BEq, Repr

/-- What came of sending a request. -/
inductive Delivery where
  | replied (status : Nat) (body : String)
  | undelivered (reason : String)
  deriving DecidableEq, Repr

/-- Why a call gave no response. -/
inductive Trouble where
  /-- The arguments make no request of the kind with this title; nothing was sent. -/
  | badRequest (title : String) (faults : List Fault)
  /-- The service was not reached, or refused the request. -/
  | connection (failure : Failure)
  /-- The reply is not data. -/
  | unreadReply
  /-- The reply is no response of the kind with this title. -/
  | badReply (title : String) (faults : List Fault)
  deriving BEq, Repr

/-- A response to a call. -/
inductive Response where
  | command (response : CommandResponse)
  | status (response : StatusResponse)
  deriving DecidableEq, Repr

/-- The wire form of a response. -/
def Response.wire : Response → Json
  | .command response => response.wire
  | .status response => response.wire

namespace Call

/-- The path that a call is sent to. -/
def path : Call → String
  | .start .. => "/start"
  | .status => "/status"
  | .pause => "/pause"
  | .resume _ => "/resume"
  | .finalize _ => "/finalize"

/-- A value, or an empty list for a value that counts as no. -/
def orEmpty (value : Json) : Json :=
  if value.isTruthy then value else .arr []

/-- The title and the wire form of the request of a call. -/
def request : Call → String × Checked Json
  | .start included excluded =>
    (StartRequest.title,
      (StartRequest.ofFields
        [(includeNames.2, orEmpty included), (excludeNames.2, orEmpty excluded)]).map (·.wire))
  | .resume fromFailure =>
    (ResumeRequest.title,
      (ResumeRequest.ofFields [(ResumeRequest.names.2, fromFailure)]).map (·.wire))
  | .finalize ignoreHistoryLost =>
    (FinalizeRequest.title,
      (FinalizeRequest.ofFields [(FinalizeRequest.names.2, ignoreHistoryLost)]).map (·.wire))
  | .status => ("StatusRequest", .ok (.obj []))
  | .pause => ("PauseRequest", .ok (.obj []))

/-- The request that a call sends, if its arguments make one. -/
def sent (call : Call) : Except Trouble Json :=
  match call.request with
  | (_, .ok value) => .ok value
  | (title, .faulty faults) => .error (.badRequest title faults)

/-- The response that a value is to a call. -/
def check (value : Json) : Call → String × Checked Response
  | .status => (StatusResponse.title, (StatusResponse.check value).map .status)
  | _ => (CommandResponse.title, (CommandResponse.check value).map .command)

/-- The failure of a request that was refused. -/
def refusal (call : Call) (code : Nat) (body : String) : Failure :=
  ⟨.connection ("Server returned HTTP " ++ Numeral.natText code ++ " for " ++ call.path), "",
    [("body", .str body)]⟩

/-- The failure of a request that was not delivered. -/
def unreachable (address : Address) (reason : String) : Failure :=
  ⟨.connection ("Cannot reach migration control server at " ++ address.url ++ ": " ++ reason), "", []⟩

/-- Read the body of a reply; a mark of the encoding in front of it is skipped. -/
def readBody? (body : String) : Option Json :=
  match body.toList with
  | '\uFEFF' :: rest => Json.read? (String.ofList rest)
  | _ => Json.read? body

/-- Take what came of sending a call's request. -/
def receive (call : Call) (address : Address) : Delivery → Except Trouble Response
  | .undelivered reason => .error (.connection (unreachable address reason))
  | .replied code body =>
    if 200 ≤ code && code < 300 then
      match readBody? body with
      | none => .error .unreadReply
      | some value =>
        match call.check value with
        | (_, .ok response) => .ok response
        | (title, .faulty faults) => .error (.badReply title faults)
    else .error (.connection (call.refusal code body))

/-- A request that was refused gives the status and body of the refusal. -/
theorem receive_refused {call : Call} {address : Address} {code : Nat} {body : String}
    (h : code < 200 ∨ 300 ≤ code) :
    call.receive address (.replied code body) =
      .error (.connection (call.refusal code body)) := by
  rw [receive, if_neg]
  simp only [Bool.and_eq_true, decide_eq_true_eq]
  omega

end Call

end Cutover.Client
