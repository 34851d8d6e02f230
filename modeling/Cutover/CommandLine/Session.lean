import Cutover.Audit.Trail
import Cutover.Client.InPlace
import Cutover.CommandLine.Launch

/-!
# Sessions

Command lines that are run one after the other against a service in place.  Main statement:
`Session.run_unread`, a command line that cannot be read leaves the service as it is.
-/

namespace Cutover.CommandLine

/-- What a session has: the service, the surroundings that its commands look at, and the audit trails of its
process.  The first trail is that of the service in place, which has no file. -/
structure Session where
  service : Rehearsal
  find : String → Settings.Entry := fun _ => .nothing
  environment : Settings.Environment := []
  trails : Audit.Trails := Audit.Trails.opened {} none

namespace Session

/-- What is at a path: the file of an audit trail, or what the session found there. -/
def entryAt (session : Session) (path : String) : Settings.Entry :=
  match session.trails.files path with
  | some content => .file (content.toUTF8.toList.map (·.toNat))
  | none => session.find path

/-- Take over what became of the service, and log what is new in its audit trail. -/
def attend (session : Session) (now : Timestamp) (service : Rehearsal) : Session :=
  let before := Journal.audit session.service.plane.journal
  let events := (Journal.audit service.plane.journal).drop before.length
  { session with service, trails := session.trails.run (events.map (.logged 0 now)) }

/-- Run the command that runs the service; the service itself ends at once. -/
def host (session : Session) (options : ServeOptions) : Session × Ending :=
  let session' := match trailFile? session.entryAt session.environment options with
    | some file => { session with trails := session.trails.opened file }
    | none => session
  (session', (serve session.entryAt session.environment options).ending)

/-- What is shown of a command line that cannot be read. -/
def unread (fault : UsageFault) : Ending :=
  ⟨"Error: " ++ fault.message ++ "\n", .ok 2⟩

/-- Run a command. -/
def perform (session : Session) (now : Timestamp) (invocation : Invocation) : Session × Ending :=
  match invocation.action with
  | .help =>
    (session, ⟨Text.joinText "\n" (Invocation.commands.map (·.1)) ++ "\n", .ok 0⟩)
  | .version => (session, ⟨Invocation.versionLine ++ "\n", .ok 0⟩)
  | .serve options => session.host options
  | _ =>
    let (service, ending) := invocation.conduct
      (fun service _ call payload => call.deliverInPlace now service payload) session.service
    (session.attend now service, ending)

/-- Run a command line. -/
def run (session : Session) (now : Timestamp) (args : List String) : Session × Ending :=
  match Invocation.read (fun path => session.entryAt path ≠ .nothing) args with
  | .error fault => (session, unread fault)
  | .ok invocation => session.perform now invocation

/-- A command line that cannot be read leaves the service as it is. -/
theorem run_unread {session : Session} {now : Timestamp} {args : List String} {fault : UsageFault}
    (h : Invocation.read (fun path => session.entryAt path ≠ .nothing) args = .error fault) :
    session.run now args = (session, unread fault) := by
  simp only [run, h]

end Session

end Cutover.CommandLine
