import Cutover.Rehearsal.Engine

/-!
# Rehearsals

A control plane together with the engine that takes its signals.  A rehearsal is driven from outside by
calls, cancellations and the opening of gates; between two of these it goes on, one piece of work at a
time, until nothing is ready any more.
-/

namespace Cutover

/-- The signal that the engine is taking. -/
structure Progress where
  call : CallId
  signal : Signal
  /-- What the engine still has to do. -/
  rest : List Action
  /-- Whether it waits at a gate. -/
  atGate : Bool := false
  deriving BEq, Repr

/-- A control plane, its engine, and what both have shown so far. -/
structure Rehearsal where
  plane : ControlPlane
  engine : Engine
  progress : Option Progress := none
  /-- The signals that a scripted engine has seen, with their arguments. -/
  seen : List (String × Json) := []
  log : List Log.Line := []
  deriving BEq, Repr

namespace Rehearsal

/-- A rehearsal that begins with a snapshot. -/
def start (engine : Engine) (snapshot : Snapshot) : Rehearsal where
  plane := .idle snapshot
  engine := engine

/-- Write a line to the log. -/
def write (r : Rehearsal) (line : Log.Line) : Rehearsal :=
  { r with log := r.log ++ [line] }

/-- The engine takes on a signal. -/
def takeSignal (r : Rehearsal) (call : CallId) (signal : Signal) : Rehearsal :=
  let r := { r with progress := some { call, signal, rest := r.engine.script signal } }
  match r.engine with
  | .logging => r.write (Engine.line signal)
  | .scripted _ => { r with seen := r.seen ++ [(signal.name, signal.argument)] }

/-- Let an event happen, if it can; the engine takes on the signal that it begins. -/
def advance (r : Rehearsal) (now : Timestamp) (event : Event) : Rehearsal :=
  match r.plane.step now event with
  | none => r
  | some plane =>
    let notes := plane.journal.drop r.plane.journal.length
    let r := { r with plane := plane, log := r.log ++ Journal.log notes }
    (Journal.signals notes).foldl (fun r began => r.takeSignal began.1 began.2) r

/-- Make a call. -/
def make (r : Rehearsal) (now : Timestamp) (command : Command) : Rehearsal × CallId :=
  (r.advance now (.make command), r.plane.calls.length)

/-- Make a report and let it run, as it never has to wait. -/
def report (r : Rehearsal) (now : Timestamp) (command : Command) : Rehearsal :=
  let (r, call) := r.make now command
  r.advance now (.run call)

/-- The engine does the next of its actions, or ends the signal if there are none. -/
def act (r : Rehearsal) (now : Timestamp) (progress : Progress) : Rehearsal :=
  match progress.rest with
  | [] => { r with progress := none }.advance now (.finish progress.call none)
  | .fail message :: _ =>
    { r with progress := none }.advance now (.finish progress.call (some message))
  | .gate :: rest => { r with progress := some { progress with rest := rest, atGate := true } }
  | .reportFailure reason :: rest =>
    { r with progress := some { progress with rest := rest } }.report now (.reportFailure reason)
  | .reportHistoryLost :: rest =>
    { r with progress := some { progress with rest := rest } }.report now .reportHistoryLost

/-- The next event that is ready in the control plane. -/
def ready? (r : Rehearsal) : Option Event :=
  match r.plane.readyCalls, r.plane.readyTurns, r.plane.readySignals with
  | call :: _, _, _ => some (.run call)
  | [], turn :: _, _ => some (.handOver turn)
  | [], [], call :: _ => some (.wake call)
  | [], [], [] => none

/-- Do one piece of work that is ready: an action of the engine, or an event of the control plane. -/
def work? (r : Rehearsal) (now : Timestamp) : Option Rehearsal :=
  match r.progress with
  | some progress =>
    if progress.atGate then r.ready?.map (r.advance now) else some (r.act now progress)
  | none => r.ready?.map (r.advance now)

/-- Do up to `fuel` pieces of work. -/
def workUpTo (now : Timestamp) : Nat → Rehearsal → Rehearsal
  | 0, r => r
  | fuel + 1, r =>
    match r.work? now with
    | none => r
    | some r => workUpTo now fuel r

/-- More work than can be ready: each call runs, wakes and ends once, each turn is handed over once, and
a signal has no more actions than the longest script. -/
def bound (r : Rehearsal) : Nat :=
  let longest := match r.engine with
    | .logging => 0
    | .scripted scripts => scripts.foldl (fun n entry => n + entry.2.length) 0
  let left := (r.progress.map fun progress => progress.rest.length).getD 0
  (r.plane.calls.length + r.plane.turns.length + 1) * (longest + 4) + left + 1

/-- Go on until nothing is ready any more. -/
def settle (r : Rehearsal) (now : Timestamp) : Rehearsal :=
  workUpTo now r.bound r

/-- Open the gate that the engine waits at, if there is one, and tell the signal's name. -/
def openGate (r : Rehearsal) : Rehearsal × Option String :=
  match r.progress with
  | some progress =>
    if progress.atGate then
      ({ r with
          progress := some { progress with atGate := false }
          seen := r.seen ++ [(progress.signal.name ++ ":resumed", .null)] },
        some progress.signal.name)
    else (r, none)
  | none => (r, none)

/-- Cancel a call, and tell whether it could be cancelled. -/
def cancel (r : Rehearsal) (now : Timestamp) (call : CallId) : Rehearsal × Bool :=
  match r.plane.step now (.cancel call) with
  | none => (r, false)
  | some _ =>
    let left := match r.progress with
      | some progress => if progress.call = call then none else some progress
      | none => none
    ({ r with progress := left }.advance now (.cancel call), true)

/-- The phase of a call. -/
def phase? (r : Rehearsal) (call : CallId) : Option Phase :=
  (r.plane.calls[call]?).map (·.phase)

/-- The result of a call that was answered. -/
def result? (r : Rehearsal) (call : CallId) : Option CommandResult :=
  match r.phase? call with
  | some (.answered result) => some result
  | _ => none

/-- Make a call and wait for its result. -/
def perform (r : Rehearsal) (now : Timestamp) (command : Command) :
    Rehearsal × Option CommandResult :=
  let (r, call) := r.make now command
  let r := r.settle now
  (r, r.result? call)

end Rehearsal

end Cutover
