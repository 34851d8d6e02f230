import Cutover.Json.Reader
import Cutover.Protocol.Response

/-!
# Requests to the service

The service takes the five commands and a question after its health over HTTP, each on a path of its own.
A request comes to one of them, or to a reply that can be given at once: nothing is there, the method is
wrong, the path has a slash at its end, or the body is not what the command needs.

Main statement: `Endpoint.ofPath?_path`, each path leads to its endpoint.
-/

namespace Cutover.Service

open Text

/-- What the service offers. -/
inductive Endpoint where
  | health
  | start
  | status
  | pause
  | resume
  | finalize
  deriving DecidableEq, Repr

namespace Endpoint

/-- All endpoints. -/
def all : List Endpoint := [health, start, status, pause, resume, finalize]

/-- The path of an endpoint. -/
def path : Endpoint → String
  | .health => "/health"
  | .start => "/start"
  | .status => "/status"
  | .pause => "/pause"
  | .resume => "/resume"
  | .finalize => "/finalize"

/-- The methods by which an endpoint is asked. -/
def methods : Endpoint → List String
  | .health => ["GET"]
  | .status => ["GET", "POST"]
  | _ => ["POST"]

/-- The endpoint with a path. -/
def ofPath? (path : String) : Option Endpoint :=
  all.find? (·.path = path)

/-- Each path leads to its endpoint. -/
@[simp] theorem ofPath?_path (endpoint : Endpoint) : ofPath? endpoint.path = some endpoint := by
  cases endpoint <;> decide

end Endpoint

/-- An HTTP request. -/
structure Request where
  method : String
  /-- The path, and what follows it behind a question mark. -/
  target : String
  contentType : Option String := none
  body : String := ""
  deriving DecidableEq, Repr

/-- Where a request leads. -/
inductive Route where
  | endpoint (endpoint : Endpoint)
  | wrongMethod
  /-- An endpoint has the path without the slash at its end. -/
  | redirect
  | nowhere
  deriving DecidableEq, Repr

/-- What the body of a request holds. -/
inductive Body where
  | absent
  | unread
  /-- A text that was not announced as data. -/
  | opaqueText
  | value (value : Json)
  deriving BEq, Repr

/-- What a request comes to. -/
inductive Demand where
  | health
  | status
  | command (command : Command)
  /-- The body is not what the endpoint needs. -/
  | faulty (faults : List Fault)
  | wrongMethod
  | redirect
  | nowhere
  deriving BEq, Repr

namespace Request

/-- Characters given by their number behind a percent sign. -/
def decodePercent : List Char → List Char
  | '%' :: a :: b :: rest =>
    match Numeral.readHex? [a, b] with
    | some n => Char.ofNat n :: decodePercent rest
    | none => '%' :: decodePercent (a :: b :: rest)
  | c :: rest => c :: decodePercent rest
  | [] => []

/-- A path with the steps `.` and `..` taken: the first stays in place, the second goes back by one. -/
def takeSteps (steps : List (List Char)) : List (List Char) :=
  steps.foldl
    (fun taken step =>
      if step = ['.'] then taken
      else if step = ['.', '.'] then (if taken.length ≤ 1 then taken else taken.dropLast)
      else taken ++ [step])
    []

/-- What follows the name of a host, which two slashes announce. -/
def skipHost : List Char → List Char
  | '/' :: '/' :: rest => rest.dropWhile (· != '/')
  | cs => cs

/-- The path of a request, with its steps taken and decoded; a slash at its front may be left out. -/
def path (request : Request) : List Char :=
  let written := skipHost (request.target.toList.takeWhile fun c => c != '?' && c != '#')
  decodePercent (join ['/'] (takeSteps (split '/' ('/' :: written.dropWhile (· == '/')))))

/-- The method of a request in upper case. -/
def verb (request : Request) : String :=
  upper request.method

/-- The endpoint at a path; a line break at its end does not count. -/
def endpointAt? (path : List Char) : Option Endpoint :=
  Endpoint.ofPath? (String.ofList (if path.getLast? = some '\n' then path.dropLast else path))

/-- Where a request leads. -/
def route (request : Request) : Route :=
  let path := request.path
  match endpointAt? path with
  | some endpoint =>
    if endpoint.methods.contains request.verb then .endpoint endpoint else .wrongMethod
  | none =>
    if path.getLast? = some '/' && (endpointAt? (dropEndWhile (· == '/') path)).isSome then
      .redirect
    else .nowhere

/-- Whether a kind of content is announced as data: it is left open, or it is an application's and named
for the data format. -/
def isData (contentType : String) : Bool :=
  if contentType = "" then true
  else
    let kind := lower (trimText ((splitText ';' contentType).headD ""))
    match splitText '/' kind with
    | ["application", name] => name = "json" || name.endsWith "+json"
    | _ => false

/-- What the body of a request holds; a mark of the encoding in front of it is skipped. -/
def content (request : Request) : Body :=
  if request.body = "" then .absent
  else if !isData (request.contentType.getD "") then .opaqueText
  else
    let text := match request.body.toList with
      | '\uFEFF' :: rest => String.ofList rest
      | _ => request.body
    match Json.read? text with
    | some value => .value value
    | none => .unread

/-- The payload of a request as read by `check`, or the default if there is no body. -/
def payload {α : Type} (request : Request) (check : Fields → Checked α) (default : α) : Checked α :=
  Checked.under (.member "body") <|
    match request.content with
    | .absent => .ok default
    | .value .null => .ok default
    | .value (.obj members) => check members
    | .unread => Checked.fault .unreadBody
    | _ => Checked.fault .notFields

/-- The demand of a payload. -/
def demandOf {α : Type} (payload : Checked α) (demand : α → Demand) : Demand :=
  match payload with
  | .ok value => demand value
  | .faulty faults => .faulty faults

/-- What a request to an endpoint comes to. -/
def demandAt (request : Request) : Endpoint → Demand
  | .health => .health
  | .start =>
    demandOf (request.payload StartRequest.ofFields {}) fun payload =>
      .command (.start (payload.included.map .str) (payload.excluded.map .str))
  | .status => demandOf (request.payload (fun _ => .ok ()) ()) fun _ => .status
  | .pause => demandOf (request.payload (fun _ => .ok ()) ()) fun _ => .command .pause
  | .resume =>
    demandOf (request.payload ResumeRequest.ofFields {}) fun payload =>
      .command (.resume payload.fromFailure)
  | .finalize =>
    demandOf (request.payload FinalizeRequest.ofFields {}) fun payload =>
      .command (.finalize payload.ignoreHistoryLost)

/-- What a request comes to. -/
def demand (request : Request) : Demand :=
  match request.route with
  | .endpoint endpoint => request.demandAt endpoint
  | .wrongMethod => .wrongMethod
  | .redirect => .redirect
  | .nowhere => .nowhere

end Request

end Cutover.Service
