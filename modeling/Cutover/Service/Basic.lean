import Cutover.Json.Printer
import Cutover.Rehearsal.Basic
import Cutover.Service.Request

/-!
# The service

The service answers requests by a control plane.  A command that is rejected is answered like one that is
accepted, as far as HTTP is concerned: the reply's content tells what came of it.  A request is refused
only if it leads nowhere or its body cannot be understood.
-/

namespace Cutover.Service

/-- The title of the service. -/
def title : String := "Migration Control API"

/-- The version of the service. -/
def version : String := "0.1.0"

/-- What a reply tells. -/
inductive Content where
  | nothing
  | value (value : Json)
  | faults (faults : List Fault)
  deriving BEq, Repr

/-- A reply to a request. -/
structure Reply where
  status : Nat
  content : Content
  deriving BEq, Repr

namespace Reply

/-- A reply with a value. -/
def ok (value : Json) : Reply := ⟨200, .value value⟩

/-- A reply that refuses a request in words. -/
def refused (status : Nat) (words : String) : Reply :=
  ⟨status, .value (.obj [("detail", .str words)])⟩

/-- A fault as a value. -/
def faultValue (fault : Fault) : Json :=
  .obj [("type", .str fault.kind.name),
    ("loc", .arr (fault.place.map fun
      | .member name => .str name
      | .item index => .int index)),
    ("msg", .str fault.kind.message)]

/-- The body of a reply. -/
def body (reply : Reply) : String :=
  match reply.content with
  | .nothing => ""
  | .value value => value.text
  | .faults faults => (Json.obj [("detail", .arr (faults.map faultValue))]).text

end Reply

/-- The line with which the service begins. -/
def openingLine : Log.Line :=
  ⟨.info, "Starting " ++ title ++ " v" ++ version⟩

/-- The line with which the service ends. -/
def closingLine (state : State) : Log.Line :=
  ⟨.info, "Shutting down " ++ title ++ " (state: " ++ state.name ++ ")"⟩

/-- The line with which the service takes a start. -/
def startLine (included excluded : List Json) : Log.Line :=
  ⟨.debug, "start: include=" ++ (Json.arr included).displayText ++
    " exclude=" ++ (Json.arr excluded).displayText⟩

/-- The state of health of a service whose migration is in a state. -/
def healthValue (state : State) : Json :=
  .obj [("status", .str "healthy"), ("version", .str version), ("state", state.toJson)]

/-- The reply that tells the status of a migration. -/
def statusReply (s : Snapshot) : Reply :=
  match StatusResponse.ofSnapshot s with
  | .ok response => .ok response.wire
  | .faulty _ => ⟨500, .nothing⟩

/-- Take a command for the service and give the response to it. -/
def perform (r : Rehearsal) (now : Timestamp) (command : Command) : Rehearsal × Option CommandResponse :=
  let r := match command with
    | .start included excluded => r.write (startLine included excluded)
    | _ => r
  let (r, result) := r.perform now command
  (r, result.map CommandResponse.ofResult)

/-- Meet a demand. -/
def meet (r : Rehearsal) (now : Timestamp) : Demand → Rehearsal × Reply
  | .health => (r, .ok (healthValue r.plane.snapshot.state))
  | .status => (r, statusReply r.plane.snapshot)
  | .command command =>
    match perform r now command with
    | (r, some response) => (r, .ok response.wire)
    | (r, none) => (r, ⟨504, .nothing⟩)
  | .faulty faults => (r, ⟨422, .faults faults⟩)
  | .wrongMethod => (r, .refused 405 "Method Not Allowed")
  | .redirect => (r, ⟨307, .nothing⟩)
  | .nowhere => (r, .refused 404 "Not Found")

/-- Answer a request.  The reply to a request for the head alone has no body. -/
def answer (r : Rehearsal) (now : Timestamp) (request : Request) : Rehearsal × Reply :=
  let (r, reply) := meet r now request.demand
  (r, if request.verb = "HEAD" then { reply with content := .nothing } else reply)

/-- A service that begins to answer requests. -/
def opened (engine : Engine) (snapshot : Snapshot) : Rehearsal :=
  (Rehearsal.start engine snapshot).write openingLine

/-- A service that has stopped to answer requests. -/
def closed (r : Rehearsal) : Rehearsal :=
  r.write (closingLine r.plane.snapshot.state)

end Cutover.Service
