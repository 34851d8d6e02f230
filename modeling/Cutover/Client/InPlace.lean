import Cutover.Client.Basic
import Cutover.Service.Basic

/-!
# Calls in place

Calls of a client that are delivered to a service without a network between them.  Main statement:
`Client.Call.deliverInPlace_delivered`, a call in place always reaches the service.
-/

namespace Cutover.Client.Call

/-- The request that a call makes of a service. -/
def posted (call : Client.Call) (payload : Json) : Service.Request :=
  { method := "POST", target := call.path, contentType := some "application/json", body := payload.text }

/-- Deliver a call with its payload to a service in place. -/
def deliverInPlace (now : Timestamp) (service : Rehearsal) (call : Client.Call) (payload : Json) :
    Rehearsal × Client.Delivery :=
  let (service, reply) := Service.answer service now (call.posted payload)
  (service, .replied reply.status reply.body)

/-- A call in place always reaches the service. -/
theorem deliverInPlace_delivered (now : Timestamp) (service : Rehearsal) (call : Client.Call)
    (payload : Json) : ∃ status body,
      (call.deliverInPlace now service payload).2 = .replied status body :=
  ⟨_, _, rfl⟩

end Cutover.Client.Call
