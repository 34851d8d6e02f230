import Cutover.Proofs.Journal

/-!
# What an event does

`Step p now event q` lists all that can happen in one event, one constructor for each way in which a call
can go on, with the state that comes of it written out.  `step_eq_some` says that nothing else happens;
later proofs take the list apart and never open `ControlPlane.step`.

`Reachable.induction` turns what one step keeps into what holds in every state that can be reached.
-/

namespace Cutover

namespace Outcome

variable {outcome : Outcome} {rejection : Rejection}

theorem rejection?_eq_some : outcome.rejection? = some rejection ↔ outcome = .rejected rejection := by
  cases outcome <;> simp [rejection?]

theorem rejection?_eq_none : outcome.rejection? = none ↔ outcome.isAccepted = true := by
  cases outcome <;> simp [rejection?, isAccepted]

@[simp] theorem isAccepted_rejected : (rejected rejection).isAccepted = false := rfl

/-- What is not accepted changes nothing. -/
theorem after_of_not_accepted (s : Snapshot) (h : outcome.isAccepted = false) :
    outcome.after s = s := by
  cases outcome with
  | rejected rejection => rfl
  | kept => rfl
  | moved next => cases h

@[simp] theorem after_rejected (s : Snapshot) : (rejected rejection).after s = s := rfl

end Outcome

namespace ControlPlane

open Journal

variable {p q : ControlPlane} {now : Timestamp} {event : Event} {call : CallId} {turn : Nat}

/-! ### Notes on the log and the audit trail -/

theorem silent_outcomeNotes (rule : Rule) (before : Snapshot) (outcome : Outcome) :
    Silent (outcomeNotes rule before outcome) := by
  intro note hmem
  cases outcome with
  | rejected rejection =>
    rw [outcomeNotes, List.mem_singleton] at hmem
    rw [hmem, Note.call?]
  | kept => simp [outcomeNotes] at hmem
  | moved next =>
    obtain ⟨record, _, hrecord⟩ := List.mem_flatMap.mp hmem
    simp only [recordNotes, List.mem_cons, List.not_mem_nil, or_false] at hrecord
    rcases hrecord with rfl | rfl <;> rfl

theorem silent_reportNotes (command : Command) (current : Snapshot) (outcome : Outcome) :
    Silent (reportNotes command current outcome) := by
  intro note hmem
  unfold reportNotes at hmem
  split at hmem
  · split at hmem
    · rw [List.mem_singleton] at hmem
      rw [hmem, Note.call?]
    · simp only [List.mem_cons, List.not_mem_nil, or_false] at hmem
      rcases hmem with rfl | rfl <;> rfl
    · simp at hmem
  · simp at hmem

/-- What is written when a rule is applied for a call. -/
def commitNotes (p : ControlPlane) (now : Timestamp) (call : CallId) (rule : Rule) : Journal :=
  .applied call rule p.snapshot now (rule.apply p.snapshot now) ::
    outcomeNotes rule p.snapshot (rule.apply p.snapshot now)

/-- What is written when the signal of a call fails. -/
def failureNotes (p : ControlPlane) (call : CallId) (command : Command) (cause : String) : Journal :=
  [.ended call (some cause),
    .logged ⟨.error, "Apply engine signal for " ++ command.name ++ " failed: " ++ cause⟩,
    .audited (Audit.Event.signalFailed command.name p.snapshot.state cause)]

/-! ### All that can happen -/

/-- What an event does to a control plane. -/
inductive Step (p : ControlPlane) (now : Timestamp) : Event → ControlPlane → Prop
  /-- A call is made. -/
  | make (command : Command) :
    Step p now (.make command)
      { p with
        calls := p.calls ++ [⟨command, .made⟩]
        journal := p.journal ++ [.called p.calls.length command] }
  /-- The rule of a call rejects the change. -/
  | reject {call : CallId} {command : Command} {rejection : Rejection} {result : CommandResult}
      (hcall : p.calls[call]? = some ⟨command, .made⟩)
      (hrule : command.rule.apply p.snapshot now = .rejected rejection)
      (hresult : result =
        { command := command.name, snapshot := p.snapshot, error := some rejection }) :
    Step p now (.run call)
      { p.setPhase call (.answered result) with
        journal := p.journal ++ (p.commitNotes now call command.rule ++ [.answered call result]) }
  /-- A report of the engine is accepted. -/
  | report {call : CallId} {command : Command} {next : Snapshot} {result : CommandResult}
      (hcall : p.calls[call]? = some ⟨command, .made⟩)
      (hrule : (command.rule.apply p.snapshot now).isAccepted = true)
      (hnext : next = (command.rule.apply p.snapshot now).after p.snapshot)
      (hsignal : command.signal? next = none)
      (hresult : result = { command := command.name, snapshot := next }) :
    Step p now (.run call)
      { p.setPhase call (.answered result) with
        snapshot := next
        journal := p.journal ++ (p.commitNotes now call command.rule ++
          (reportNotes command next (command.rule.apply p.snapshot now) ++
            [.answered call result])) }
  /-- A command is accepted, and its turn comes at once. -/
  | enter {call : CallId} {command : Command} {next : Snapshot} {signal : Signal}
      (hcall : p.calls[call]? = some ⟨command, .made⟩)
      (hrule : (command.rule.apply p.snapshot now).isAccepted = true)
      (hnext : next = (command.rule.apply p.snapshot now).after p.snapshot)
      (hsignal : command.signal? next = some signal)
      (hcome : p.hasCome p.turns.length = true) :
    Step p now (.run call)
      { p.setPhase call (.signalling p.turns.length next) with
        snapshot := next
        turns := p.turns ++ [⟨call, signal, .held⟩]
        journal := p.journal ++ (p.commitNotes now call command.rule ++ [.began call signal]) }
  /-- A command is accepted, and waits for its turn. -/
  | queue {call : CallId} {command : Command} {next : Snapshot} {signal : Signal}
      (hcall : p.calls[call]? = some ⟨command, .made⟩)
      (hrule : (command.rule.apply p.snapshot now).isAccepted = true)
      (hnext : next = (command.rule.apply p.snapshot now).after p.snapshot)
      (hsignal : command.signal? next = some signal)
      (hcome : p.hasCome p.turns.length = false) :
    Step p now (.run call)
      { p.setPhase call (.waiting p.turns.length next) with
        snapshot := next
        turns := p.turns ++ [⟨call, signal, .held⟩]
        journal := p.journal ++ p.commitNotes now call command.rule }
  /-- The turn of a waiting call has come, and its signal begins. -/
  | wake {call : CallId} {command : Command} {turn : Nat} {accepted : Snapshot} {t : Turn}
      (hcall : p.calls[call]? = some ⟨command, .waiting turn accepted⟩)
      (hturn : p.turns[turn]? = some t) (hcome : p.hasCome turn = true) :
    Step p now (.wake call)
      { p.setPhase call (.signalling turn accepted) with
        journal := p.journal ++ [.began call t.signal] }
  /-- The signal of a call fails. -/
  | fail {call : CallId} {command : Command} {turn : Nat} {accepted : Snapshot} {cause : String}
      {result : CommandResult}
      (hcall : p.calls[call]? = some ⟨command, .signalling turn accepted⟩)
      (hresult : result =
        { command := command.name, snapshot := accepted, signalError := some cause }) :
    Step p now (.finish call (some cause))
      { (p.setPhase call (.answered result)).setTurn turn .released with
        journal := p.journal ++ (p.failureNotes call command cause ++ [.answered call result]) }
  /-- The signal of a call returns, and the call is done. -/
  | deliver {call : CallId} {command : Command} {turn : Nat} {accepted : Snapshot}
      {result : CommandResult}
      (hcall : p.calls[call]? = some ⟨command, .signalling turn accepted⟩)
      (hfinal : command.isFinalize = false)
      (hresult : result = { command := command.name, snapshot := accepted }) :
    Step p now (.finish call none)
      { (p.setPhase call (.answered result)).setTurn turn .released with
        journal := p.journal ++ [.ended call none, .answered call result] }
  /-- The signal of a finalize returns, and the cutover completes if the state still allows it. -/
  | complete {call : CallId} {command : Command} {turn : Nat} {accepted next : Snapshot}
      {result : CommandResult}
      (hcall : p.calls[call]? = some ⟨command, .signalling turn accepted⟩)
      (hfinal : command.isFinalize = true)
      (hnext : next = (Rule.completeFinalize.apply p.snapshot now).after p.snapshot)
      (hresult : result =
        { command := command.name, snapshot := next,
          superseded := (Rule.completeFinalize.apply p.snapshot now).rejection? }) :
    Step p now (.finish call none)
      { (p.setPhase call (.answered result)).setTurn turn .released with
        snapshot := next
        journal := p.journal ++ (.ended call none ::
          (p.commitNotes now call .completeFinalize ++ [.answered call result])) }
  /-- A call is cancelled before it has run. -/
  | withdraw {call : CallId} {command : Command}
      (hcall : p.calls[call]? = some ⟨command, .made⟩) :
    Step p now (.cancel call)
      { p.setPhase call .cancelled with journal := p.journal ++ [.cancelled call] }
  /-- A call is cancelled between the coming of its turn and its signal. -/
  | miss {call : CallId} {command : Command} {turn : Nat} {accepted : Snapshot}
      (hcall : p.calls[call]? = some ⟨command, .waiting turn accepted⟩)
      (hcome : p.hasCome turn = true) :
    Step p now (.cancel call)
      { (p.setPhase call .cancelled).setTurn turn .released with
        journal := p.journal ++ [.cancelled call] }
  /-- A call is cancelled before its turn has come. -/
  | leave {call : CallId} {command : Command} {turn : Nat} {accepted : Snapshot}
      (hcall : p.calls[call]? = some ⟨command, .waiting turn accepted⟩)
      (hcome : p.hasCome turn = false) :
    Step p now (.cancel call)
      { (p.setPhase call .cancelled).setTurn turn .abandoned with
        journal := p.journal ++ [.cancelled call] }
  /-- A call is cancelled during its signal. -/
  | interrupt {call : CallId} {command : Command} {turn : Nat} {accepted : Snapshot}
      (hcall : p.calls[call]? = some ⟨command, .signalling turn accepted⟩) :
    Step p now (.cancel call)
      { (p.setPhase call .cancelled).setTurn turn .released with
        journal := p.journal ++ [.cancelled call] }
  /-- A turn that was left behind is given up. -/
  | handOver {turn : Nat} {t : Turn} (hturn : p.turns[turn]? = some t)
      (hstatus : t.status = .abandoned) (hcome : p.hasCome turn = true) :
    Step p now (.handOver turn) (p.setTurn turn .released)

/-! ### Nothing else can happen -/

/-- Whether a turn has come depends on the turn before it alone. -/
theorem hasCome_congr (h : ∀ earlier < turn, p.turns[earlier]? = q.turns[earlier]?) :
    p.hasCome turn = q.hasCome turn := by
  cases turn with
  | zero => rfl
  | succ earlier => rw [hasCome, hasCome, h earlier (Nat.lt_succ_self earlier)]

theorem step_run {command : Command} (hcall : p.calls[call]? = some ⟨command, .made⟩) :
    Step p now (.run call) (p.runCall now call command) := by
  unfold runCall commit
  dsimp only
  split
  case h_1 rejection hr =>
    rw [Outcome.rejection?_eq_some] at hr
    rw [hr, Outcome.after_rejected]
    convert Step.reject hcall hr rfl using 2
    simp [answer, setPhase, note, commitNotes, hr]
  case h_2 hr =>
    rw [Outcome.rejection?_eq_none] at hr
    split
    case h_1 signal hs =>
      -- whether the new turn has come depends on the turns before it, which stay as they were
      have hcome (r : ControlPlane) (hr : r.turns = p.turns ++ [⟨call, signal, .held⟩]) :
          r.hasCome p.turns.length = p.hasCome p.turns.length :=
        hasCome_congr fun earlier hlt => by rw [hr, List.getElem?_append_left hlt]
      unfold takeTurn
      dsimp only [note]
      rw [hcome _ rfl]
      split
      case isTrue hready =>
        convert Step.enter hcall hr rfl hs hready using 2
        simp [beginSignal, setPhase, note, commitNotes]
      case isFalse hready =>
        exact Step.queue hcall hr rfl hs (by simpa using hready)
    case h_2 hs =>
      convert Step.report hcall hr rfl hs rfl using 2
      simp [answer, setPhase, note, commitNotes]

theorem step_finish {command : Command} {accepted : Snapshot} (failure : Option String)
    (hcall : p.calls[call]? = some ⟨command, .signalling turn accepted⟩) :
    Step p now (.finish call failure) (p.finishSignal now call command turn accepted failure) := by
  unfold finishSignal
  cases failure with
  | some cause =>
    convert Step.fail hcall rfl using 2
    simp [answer, setPhase, setTurn, note, failureNotes]
  | none =>
    dsimp only
    split
    case isTrue hfinal =>
      convert Step.complete hcall hfinal rfl rfl using 2
      simp [answer, setPhase, setTurn, note, commit, commitNotes]
    case isFalse hfinal =>
      convert Step.deliver hcall (by simpa using hfinal) rfl using 2
      simp [answer, setPhase, setTurn, note]

theorem step_cancel {c : Call} (hcall : p.calls[call]? = some c)
    (h : p.cancelCall call c.phase = some q) : Step p now (.cancel call) q := by
  obtain ⟨command, phase⟩ := c
  cases phase with
  | made => exact Option.some.inj h ▸ Step.withdraw hcall
  | waiting turn accepted =>
    simp only [cancelCall, Option.some.injEq] at h
    split at h
    case isTrue hcome => exact h ▸ Step.miss hcall hcome
    case isFalse hcome => exact h ▸ Step.leave hcall (by simpa using hcome)
  | signalling turn accepted => exact Option.some.inj h ▸ Step.interrupt hcall
  | answered result => cases h
  | cancelled => cases h

/-- Nothing else happens than what `Step` lists. -/
theorem step_eq_some (h : p.step now event = some q) : Step p now event q := by
  cases event with
  | make command => exact Option.some.inj h ▸ Step.make command
  | run call =>
    simp only [step] at h
    split at h
    case h_1 command hcall => exact Option.some.inj h ▸ step_run hcall
    case h_2 => cases h
  | wake call =>
    simp only [step] at h
    split at h
    case h_2 => cases h
    case h_1 hcall =>
      split at h
      case h_2 => cases h
      case h_1 hturn =>
        split at h
        case isTrue hcome => exact Option.some.inj h ▸ Step.wake hcall hturn hcome
        case isFalse => cases h
  | finish call failure =>
    simp only [step] at h
    split at h
    case h_1 hcall => exact Option.some.inj h ▸ step_finish failure hcall
    case h_2 => cases h
  | cancel call =>
    simp only [step] at h
    split at h
    case h_1 hcall => exact step_cancel hcall h
    case h_2 => cases h
  | handOver turn =>
    simp only [step] at h
    split at h
    case h_2 => cases h
    case h_1 hturn =>
      split at h
      case isFalse => cases h
      case isTrue hready =>
        rw [Bool.and_eq_true, decide_eq_true_eq] at hready
        exact Option.some.inj h ▸ Step.handOver hturn hready.1 hready.2

/-! ### Runs -/

/-- Events that happen one after another without any time passing. -/
def atOnce (now : Timestamp) (events : List Event) : List Timed :=
  events.map (now, ·)

/-- What follows from something known of a run holds after the run. -/
theorem exists_run_and {run : Option ControlPlane} {known holds : ControlPlane → Prop}
    (h : ∀ p, run = some p → known p → holds p) (hrun : ∃ p, run = some p ∧ known p) :
    ∃ p, run = some p ∧ known p ∧ holds p := by
  obtain ⟨p, hp, hknown⟩ := hrun
  exact ⟨p, hp, hknown, h p hp hknown⟩

theorem runAll_concat (p : ControlPlane) (events : List Timed) (now : Timestamp) (event : Event) :
    p.runAll (events ++ [(now, event)]) = (p.runAll events).bind (·.step now event) := by
  rw [runAll_append]
  congr 1
  funext q
  rw [runAll_cons]
  cases q.step now event <;> rfl

/-- What holds at first and is kept by every step holds after every run. -/
theorem runAll_induction {first : Snapshot} {motive : List Timed → ControlPlane → Prop}
    (start : motive [] (idle first))
    (step : ∀ events p now event q, (idle first).runAll events = some p → motive events p →
      Step p now event q → motive (events ++ [(now, event)]) q)
    {events : List Timed} {p : ControlPlane} (h : (idle first).runAll events = some p) :
    motive events p := by
  induction events using List.reverseRecOn generalizing p with
  | nil => exact Option.some.inj h ▸ start
  | append_singleton events last ih =>
    -- the last event of the run is the step that is added
    obtain ⟨now, event⟩ := last
    rw [runAll_concat, Option.bind_eq_some_iff] at h
    obtain ⟨before, hbefore, hstep⟩ := h
    exact step events before now event p hbefore (ih hbefore) (step_eq_some hstep)

/-- What holds at first and is kept by every step holds in every state that can be reached. -/
theorem Reachable.induction {first : Snapshot} {motive : ControlPlane → Prop}
    (start : motive (idle first))
    (step : ∀ p now event q, Reachable first p → motive p → Step p now event q → motive q)
    (h : Reachable first p) : motive p := by
  obtain ⟨events, hrun⟩ := h
  exact runAll_induction (motive := fun _ p => motive p) start
    (fun events p now event q hrun hp hstep => step p now event q ⟨events, hrun⟩ hp hstep) hrun

end ControlPlane

end Cutover
