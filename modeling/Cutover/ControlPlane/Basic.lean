import Cutover.ControlPlane.Journal

/-!
# The control plane

One migration and the calls that are made on it.  A call applies its rule to the current snapshot in one
step.  If it is accepted and has a signal, it takes a turn at the end of a queue; signals are sent one at a
time, in the order of the turns, and a call whose signal has ended gives its turn up.  A call that is
cancelled while it waits leaves its turn behind, which is given up once the turn before it has been.

The control plane advances by events.  An event that cannot happen in a state gives nothing, so that a
run is a list of events each of which can happen: `Run`, `Reachable`.
-/

namespace Cutover

/-- How far a call has come. -/
inductive Phase where
  /-- It was made and has not run yet. -/
  | made
  /-- Its rule was accepted; it waits for its turn. -/
  | waiting (turn : Nat) (accepted : Snapshot)
  /-- Its signal is in progress. -/
  | signalling (turn : Nat) (accepted : Snapshot)
  | answered (result : CommandResult)
  | cancelled
  deriving BEq, Repr

/-- A call of a command. -/
structure Call where
  command : Command
  phase : Phase
  deriving BEq, Repr

/-- Where a turn stands. -/
inductive TurnStatus where
  /-- Its call waits, or its signal is in progress. -/
  | held
  /-- Its call was cancelled before the turn came. -/
  | abandoned
  /-- It was given up; the next turn has come. -/
  | released
  deriving DecidableEq, Repr

/-- A place in the queue of signals. -/
structure Turn where
  call : CallId
  signal : Signal
  status : TurnStatus
  deriving BEq, Repr

/-- A migration, the calls made on it, the queue of its signals and what has happened so far. -/
structure ControlPlane where
  snapshot : Snapshot
  calls : List Call := []
  turns : List Turn := []
  journal : Journal := []
  deriving BEq, Repr

/-- What can happen next. -/
inductive Event where
  /-- A caller makes a call. -/
  | make (command : Command)
  /-- A call that was made runs as far as it can without waiting. -/
  | run (call : CallId)
  /-- A call whose turn has come goes on to its signal. -/
  | wake (call : CallId)
  /-- The signal of a call ends: it returns, or fails for a reason. -/
  | finish (call : CallId) (failure : Option String)
  /-- A caller cancels a call. -/
  | cancel (call : CallId)
  /-- A turn that was left behind is given up. -/
  | handOver (turn : Nat)
  deriving BEq, Repr

namespace ControlPlane

/-- A control plane with no calls. -/
def idle (snapshot : Snapshot) : ControlPlane where
  snapshot := snapshot

/-- Write entries into the journal. -/
def note (p : ControlPlane) (notes : List Note) : ControlPlane :=
  { p with journal := p.journal ++ notes }

/-- Put a call into a phase. -/
def setPhase (p : ControlPlane) (call : CallId) (phase : Phase) : ControlPlane :=
  { p with calls := p.calls.modify call fun c => { c with phase := phase } }

/-- Put a turn into a status. -/
def setTurn (p : ControlPlane) (turn : Nat) (status : TurnStatus) : ControlPlane :=
  { p with turns := p.turns.modify turn fun t => { t with status := status } }

/-- Whether a turn has come: it is the first, or the one before it was given up. -/
def hasCome (p : ControlPlane) : Nat → Bool
  | 0 => true
  | turn + 1 => (p.turns[turn]?).any (·.status = .released)

/-- The entries that tell of a recorded change of state. -/
def recordNotes (record : Record) : List Note :=
  [Note.logged ⟨.info, "Migration " ++ record.source.name ++ " -> " ++ record.target.name ++
      " (" ++ record.command ++ ")"⟩,
    .audited (Audit.Event.ofRecord record)]

/-- The entries that tell of a rule's outcome: a line and an audit event for a change of state, a line for
a rejection. -/
def outcomeNotes (rule : Rule) (before : Snapshot) : Outcome → List Note
  | .rejected rejection =>
    [.logged ⟨.warning, "Rejected " ++ rule.text ++ ": " ++ rejection.message⟩]
  | .kept => []
  | .moved next =>
    -- a lost history moves no state, so it adds no record
    (next.history.drop before.history.length).flatMap recordNotes

/-- Apply a rule for a call to the current snapshot. -/
def commit (p : ControlPlane) (now : Timestamp) (call : CallId) (rule : Rule) :
    ControlPlane × Outcome :=
  let outcome := rule.apply p.snapshot now
  let notes := .applied call rule p.snapshot now outcome :: outcomeNotes rule p.snapshot outcome
  ({ p.note notes with snapshot := outcome.after p.snapshot }, outcome)

/-- Answer a call. -/
def answer (p : ControlPlane) (call : CallId) (result : CommandResult) : ControlPlane :=
  (p.setPhase call (.answered result)).note [.answered call result]

/-- The entries that tell of an accepted report of the engine. -/
def reportNotes (command : Command) (current : Snapshot) : Outcome → List Note
  | .moved _ =>
    match command with
    | .reportFailure reason =>
      [.logged ⟨.error, "Migration failed: " ++ reason.displayText⟩]
    | .reportHistoryLost =>
      [.logged ⟨.warning, "Source history lost; finalize now requires an explicit override"⟩,
        .audited (Audit.Event.historyLost current.state)]
    | _ => []
  | _ => []

/-- The signal of a call begins. -/
def beginSignal (p : ControlPlane) (call : CallId) (turn : Nat) (accepted : Snapshot)
    (signal : Signal) : ControlPlane :=
  (p.setPhase call (.signalling turn accepted)).note [.began call signal]

/-- A call takes the last turn, and goes on to its signal if the turn has come. -/
def takeTurn (p : ControlPlane) (call : CallId) (signal : Signal) : ControlPlane :=
  let turn := p.turns.length
  -- the result tells of the snapshot to which the command has led, whatever comes later
  let accepted := p.snapshot
  let p : ControlPlane := { p with turns := p.turns ++ [⟨call, signal, .held⟩] }
  if p.hasCome turn then p.beginSignal call turn accepted signal
  else p.setPhase call (.waiting turn accepted)

/-- A call runs: it applies its rule, and then takes a turn or is answered. -/
def runCall (p : ControlPlane) (now : Timestamp) (call : CallId) (command : Command) :
    ControlPlane :=
  let (p, outcome) := p.commit now call command.rule
  match outcome.rejection? with
  | some rejection =>
    p.answer call { command := command.name, snapshot := p.snapshot, error := some rejection }
  | none =>
    match command.signal? p.snapshot with
    | some signal => p.takeTurn call signal
    | none =>
      (p.note (reportNotes command p.snapshot outcome)).answer call
        { command := command.name, snapshot := p.snapshot }

/-- The signal of a call ends.  The turn is given up; a finalize whose signal returned completes. -/
def finishSignal (p : ControlPlane) (now : Timestamp) (call : CallId) (command : Command)
    (turn : Nat) (accepted : Snapshot) (failure : Option String) : ControlPlane :=
  let p := p.note [.ended call failure]
  match failure with
  | some cause =>
    let p := p.note
      [.logged ⟨.error, "Apply engine signal for " ++ command.name ++ " failed: " ++ cause⟩,
        .audited (Audit.Event.signalFailed command.name p.snapshot.state cause)]
    (p.setTurn turn .released).answer call
      { command := command.name, snapshot := accepted, signalError := some cause }
  | none =>
    let p := p.setTurn turn .released
    -- nothing happens between the end of the signal and the completion
    if command.isFinalize then
      let (p, outcome) := p.commit now call .completeFinalize
      p.answer call
        { command := command.name, snapshot := p.snapshot, superseded := outcome.rejection? }
    else p.answer call { command := command.name, snapshot := accepted }

/-- A call is cancelled.  A turn whose time has come is given up, one that has not come is left
behind. -/
def cancelCall (p : ControlPlane) (call : CallId) : Phase → Option ControlPlane
  | .made => some ((p.setPhase call .cancelled).note [.cancelled call])
  | .waiting turn _ =>
    let status := if p.hasCome turn then .released else .abandoned
    some (((p.setTurn turn status).setPhase call .cancelled).note [.cancelled call])
  | .signalling turn _ =>
    some (((p.setTurn turn .released).setPhase call .cancelled).note [.cancelled call])
  | .answered _ => none
  | .cancelled => none

/-- The control plane after an event, if the event can happen. -/
def step (p : ControlPlane) (now : Timestamp) : Event → Option ControlPlane
  | .make command =>
    some (({ p with calls := p.calls ++ [⟨command, .made⟩] } : ControlPlane).note
      [.called p.calls.length command])
  | .run call =>
    match p.calls[call]? with
    | some ⟨command, .made⟩ => some (p.runCall now call command)
    | _ => none
  | .wake call =>
    match p.calls[call]? with
    | some ⟨_, .waiting turn accepted⟩ =>
      match p.turns[turn]? with
      | some t => if p.hasCome turn then some (p.beginSignal call turn accepted t.signal) else none
      | none => none
    | _ => none
  | .finish call failure =>
    match p.calls[call]? with
    | some ⟨command, .signalling turn accepted⟩ =>
      some (p.finishSignal now call command turn accepted failure)
    | _ => none
  | .cancel call =>
    match p.calls[call]? with
    | some c => p.cancelCall call c.phase
    | none => none
  | .handOver turn =>
    match p.turns[turn]? with
    | some t =>
      if t.status = .abandoned && p.hasCome turn then some (p.setTurn turn .released) else none
    | none => none

/-- An event with the time at which it happens. -/
abbrev Timed := Timestamp × Event

/-- The control plane after a run of events, if each of them can happen. -/
def runAll (p : ControlPlane) : List Timed → Option ControlPlane
  | [] => some p
  | (now, event) :: events => (p.step now event).bind (·.runAll events)

/-- The states that a control plane with a first snapshot can come to. -/
def Reachable (first : Snapshot) (p : ControlPlane) : Prop :=
  ∃ events, (idle first).runAll events = some p

@[simp] theorem runAll_nil (p : ControlPlane) : p.runAll [] = some p := rfl

theorem runAll_cons (p : ControlPlane) (now : Timestamp) (event : Event) (events : List Timed) :
    p.runAll ((now, event) :: events) = (p.step now event).bind (·.runAll events) := rfl

/-- A run in two parts. -/
theorem runAll_append (p : ControlPlane) (events more : List Timed) :
    p.runAll (events ++ more) = (p.runAll events).bind (·.runAll more) := by
  induction events generalizing p with
  | nil => rfl
  | cons event events ih =>
    rw [List.cons_append, runAll_cons, runAll_cons]
    cases p.step event.1 event.2 with
    | none => rfl
    | some q => exact ih q

/-! ### Work that is ready -/

/-- The turns that were left behind and can be given up. -/
def readyTurns (p : ControlPlane) : List Nat :=
  (List.range p.turns.length).filter fun turn =>
    (p.turns[turn]?).any (·.status = .abandoned) && p.hasCome turn

/-- The calls that were made and have not run. -/
def readyCalls (p : ControlPlane) : List CallId :=
  (List.range p.calls.length).filter fun call =>
    (p.calls[call]?).any fun c => match c.phase with
      | .made => true
      | _ => false

/-- The calls whose turn has come and whose signal has not begun. -/
def readySignals (p : ControlPlane) : List CallId :=
  (List.range p.calls.length).filter fun call =>
    (p.calls[call]?).any fun c => match c.phase with
      | .waiting turn _ => p.hasCome turn
      | _ => false

/-- Whether nothing can happen any more until a caller or the engine acts. -/
def isQuiet (p : ControlPlane) : Bool :=
  p.readyTurns.isEmpty && p.readyCalls.isEmpty && p.readySignals.isEmpty

/-- The call whose signal is in progress. -/
def signalling? (p : ControlPlane) : Option CallId :=
  (List.range p.calls.length).find? fun call =>
    (p.calls[call]?).any fun c => match c.phase with
      | .signalling .. => true
      | _ => false

end ControlPlane

end Cutover
