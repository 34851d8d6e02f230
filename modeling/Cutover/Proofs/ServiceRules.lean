import Cutover.Proofs.AwaitedCall
import Cutover.Proofs.QueueProgress
import Cutover.Proofs.SupersededFinalize
import Cutover.Proofs.TruthfulStatus
import Cutover.Service.Basic
import Mathlib

/-!
# The service follows the rules

Requests that are answered one after another by a service with a logging engine change the migration as
the rules alone would, and each reply tells what the rules say of the snapshot that is current: main
statement `service_follows_rules`.

Nothing is under way between two requests (`Rehearsal.AtRest`), so a command is an awaited call whose
signal returns (`AtRest.perform`), and what comes of that is what the rules of the command come to, one
after another (`AwaitedCall.outcome_obey`).
-/

namespace Cutover

/-! ### What a command comes to by the rules -/

/-- The rules that a command applies if nothing comes between them. -/
def Command.rules : Command → List Rule
  | .finalize ignoreHistoryLost => [.beginFinalize ignoreHistoryLost, .completeFinalize]
  | command => [command.rule]

/-- Apply rules one after another, unless one of them is rejected. -/
def Snapshot.obey (s : Snapshot) (now : Timestamp) : List Rule → Except Rejection Snapshot
  | [] => .ok s
  | rule :: rules =>
    match rule.apply s now with
    | .rejected rejection => .error rejection
    | .kept => s.obey now rules
    | .moved next => next.obey now rules

/-- A call that is awaited and whose signal returns, all at one time. -/
def AwaitedCall.ofCommand (now : Timestamp) (command : Command) : AwaitedCall where
  command := command
  made := now
  ran := now
  ended := now
  failure := none

namespace Snapshot

variable {s : Snapshot} {now : Timestamp} {rule : Rule} {rules : List Rule}

theorem obey_of_accepted (h : (rule.apply s now).isAccepted = true) :
    s.obey now (rule :: rules) = ((rule.apply s now).after s).obey now rules := by
  rw [obey]
  cases houtcome : rule.apply s now with
  | rejected rejection => rw [houtcome] at h; cases h
  | kept => rfl
  | moved next => rfl

theorem obey_of_rejected {rejection : Rejection} (h : rule.apply s now = .rejected rejection) :
    s.obey now (rule :: rules) = .error rejection := by
  rw [obey, h]

end Snapshot

/-- A cutover that has begun can be completed. -/
theorem Rule.isAccepted_completeFinalize_after {s : Snapshot} {now : Timestamp}
    {ignoreHistoryLost : Bool} (later : Timestamp)
    (h : ((beginFinalize ignoreHistoryLost).apply s now).isAccepted = true) :
    (completeFinalize.apply (((beginFinalize ignoreHistoryLost).apply s now).after s)
      later).isAccepted = true := by
  have haccepts := Rule.accepts h
  rw [isAccepted_completeFinalize]
  generalize (beginFinalize ignoreHistoryLost).apply s now = outcome at haccepts
  cases haccepts with
  | finalize => rfl
  | retry hstate => exact hstate

namespace AwaitedCall

/-- What comes of a call that is awaited and whose signal returns is what the rules of its command come to,
one after another; an accepted command is answered without reservation. -/
theorem outcome_ofCommand (s : Snapshot) (now : Timestamp) (command : Command) :
    (∃ next, s.obey now command.rules = .ok next ∧
      (ofCommand now command).outcome s = (next, { command := command.name, snapshot := next })) ∨
    ∃ rejection, s.obey now command.rules = .error rejection ∧
      (ofCommand now command).outcome s =
        (s, { command := command.name, snapshot := s, error := some rejection }) := by
  cases hrule : (command.rule.apply s now).rejection? with
  | some rejection =>
    have hrejected : command.rule.apply s now = .rejected rejection := Outcome.rejection?_eq_some.mp hrule
    refine .inr ⟨rejection, ?_, outcome_of_rejected hrejected⟩
    cases command <;> exact Snapshot.obey_of_rejected hrejected
  | none =>
    have haccepted : (command.rule.apply s now).isAccepted = true := Outcome.rejection?_eq_none.mp hrule
    cases command with
    | finalize ignoreHistoryLost =>
      have hcompleted := Rule.isAccepted_completeFinalize_after now haccepted
      refine .inl ⟨_, (Snapshot.obey_of_accepted haccepted).trans
        (Snapshot.obey_of_accepted hcompleted), ?_⟩
      have houtcome : (ofCommand now (.finalize ignoreHistoryLost)).outcome s = _ :=
        outcome_of_finalize rfl rfl haccepted rfl rfl
      rw [houtcome, ofCommand, Outcome.rejection?_eq_none.mpr hcompleted]
      rfl
    | start | pause | resume | reportFailure | reportHistoryLost =>
      exact .inl ⟨_, Snapshot.obey_of_accepted haccepted, outcome_of_accepted haccepted rfl rfl⟩

end AwaitedCall

/-! ### A command while nothing is under way -/

namespace ControlPlane

variable {p : ControlPlane}

/-- While nothing is under way, nothing is ready. -/
theorem AtRest.not_mem_ready (h : p.AtRest) :
    p.readyCalls = [] ∧ p.readyTurns = [] ∧ p.readySignals = [] := by
  simp only [List.eq_nil_iff_forall_not_mem]
  refine ⟨fun call hmem => ?_, fun turn hmem => ?_, fun call hmem => ?_⟩
  · obtain ⟨command, hcall⟩ := mem_readyCalls.mp hmem
    cases h.calls _ (List.mem_of_getElem? hcall)
  · obtain ⟨t, hturn, hstatus, _⟩ := mem_readyTurns.mp hmem
    cases hstatus.symm.trans (h.turns _ (List.mem_of_getElem? hturn))
  · obtain ⟨command, turn, accepted, hcall, _⟩ := mem_readySignals.mp hmem
    cases h.calls _ (List.mem_of_getElem? hcall)

/-- A call that was made while nothing is under way is the only one that can run. -/
theorem AtRest.readyCalls_made (h : p.AtRest) (command : Command) :
    ∃ rest, (p.made command).readyCalls = p.calls.length :: rest := by
  have hmem : p.calls.length ∈ (p.made command).readyCalls := mem_readyCalls.mpr ⟨_, getElem?_made⟩
  have honly (call : CallId) (hready : call ∈ (p.made command).readyCalls) : call = p.calls.length := by
    obtain ⟨other, hcall⟩ := mem_readyCalls.mp hready
    by_contra hne
    have hle : call < (p.calls ++ [Call.mk command .made]).length := (List.getElem?_eq_some_iff.mp hcall).1
    rw [List.length_append, List.length_singleton] at hle
    have hlt : call < p.calls.length := Nat.lt_of_le_of_ne (Nat.le_of_lt_succ hle) hne
    have hearlier : p.calls[call]? = some ⟨other, .made⟩ := by
      rw [← hcall, made, List.getElem?_append_left hlt]
    cases h.calls _ (List.mem_of_getElem? hearlier)
  cases hready : (p.made command).readyCalls with
  | nil => rw [hready] at hmem; cases hmem
  | cons call rest => exact ⟨rest, by rw [honly call (hready ▸ List.mem_cons_self)]⟩

end ControlPlane

namespace Rehearsal

variable {r : Rehearsal} {p q : ControlPlane} {now : Timestamp} {event : Event} {call : CallId}
  {signal : Signal} {notes : Journal}

/-- A rehearsal with a logging engine, its control plane and what the engine is taking. -/
structure Stands (r : Rehearsal) (plane : ControlPlane) (progress : Option Progress) : Prop where
  engine : r.engine = .logging
  plane : r.plane = plane
  progress : r.progress = progress

/-- An event happens that begins no signal. -/
theorem Stands.advance (h : r.Stands p none) (hstep : p.step now event = some q)
    (hjournal : q.journal = p.journal ++ notes) (hsignals : notes.signals = []) :
    (r.advance now event).Stands q none := by
  obtain ⟨hengine, rfl, hprogress⟩ := h
  have hnotes : q.journal.drop r.plane.journal.length = notes := by rw [hjournal, List.drop_left]
  simp only [Rehearsal.advance, hstep, hnotes, hsignals, List.foldl_nil]
  exact ⟨hengine, rfl, hprogress⟩

/-- An event happens that begins a signal, which the engine takes on. -/
theorem Stands.advance_signal (h : r.Stands p none) (hstep : p.step now event = some q)
    (hjournal : q.journal = p.journal ++ notes) (hsignals : notes.signals = [(call, signal)]) :
    (r.advance now event).Stands q (some { call, signal, rest := [] }) := by
  obtain ⟨hengine, rfl, hprogress⟩ := h
  have hnotes : q.journal.drop r.plane.journal.length = notes := by rw [hjournal, List.drop_left]
  simp only [Rehearsal.advance, hstep, hnotes, hsignals, List.foldl_cons, List.foldl_nil, takeSignal,
    hengine, Engine.script]
  exact ⟨rfl, rfl, rfl⟩

/-- A piece of work is done. -/
theorem workUpTo_of_work {fuel : Nat} {t : Rehearsal} (h : r.work? now = some t) :
    workUpTo now (fuel + 1) r = workUpTo now fuel t := by
  rw [workUpTo, h]

/-- There is no work while nothing is under way. -/
theorem Stands.workUpTo_of_atRest (h : r.Stands p none) (hp : p.AtRest) (fuel : Nat) :
    workUpTo now fuel r = r := by
  obtain ⟨_, rfl, hprogress⟩ := h
  obtain ⟨hcalls, hturns, hsignals⟩ := hp.not_mem_ready
  cases fuel with
  | zero => rfl
  | succ fuel =>
    have hnone : r.work? now = none := by
      rw [work?, hprogress, ready?, hcalls, hturns, hsignals]
      rfl
    rw [workUpTo, hnone]

theorem Stands.dismiss {progress : Option Progress} (h : r.Stands p progress) :
    ({ r with progress := none } : Rehearsal).Stands p none :=
  ⟨h.engine, h.plane, rfl⟩

/-- A signal that a logging engine is taking returns next. -/
theorem Stands.work_of_signal (h : r.Stands p (some { call, signal, rest := [] })) :
    r.work? now = some (({ r with progress := none } : Rehearsal).advance now (.finish call none)) := by
  rw [work?, h.progress]
  rfl

/-- The result of the last call. -/
theorem Stands.result? {progress : Option Progress} {command : Command} {result : CommandResult}
    (h : r.Stands q progress) (hcalls : q.calls = p.calls ++ [⟨command, .answered result⟩]) :
    r.result? p.calls.length = some result := by
  rw [Rehearsal.result?, phase?, h.plane, hcalls, List.getElem?_concat_length]
  rfl

/-- A call that was made while nothing is under way runs, and its signal returns if it has one.  Then
there is no work any more. -/
theorem Stands.settle {command : Command} (h : r.Stands (p.made command) none) (hp : p.AtRest)
    (now : Timestamp) :
    ∃ q result, (r.settle now).Stands q none ∧ q.AtRest ∧
      q.calls = p.calls ++ [⟨command, .answered result⟩] ∧
      (AwaitedCall.ofCommand now command).outcome p.snapshot = (q.snapshot, result) := by
  obtain ⟨rest, hready⟩ := hp.readyCalls_made command
  have hfirst : r.work? now = some (r.advance now (.run p.calls.length)) := by
    rw [work?, h.progress, ready?, h.plane, hready]
    rfl
  -- there is fuel for the call to run and for its signal to end
  obtain ⟨fuel, hfuel⟩ : ∃ fuel, r.bound = fuel + 2 := by
    refine Nat.exists_eq_add_of_le' ?_
    simp only [bound, h.engine]
    omega
  rw [Rehearsal.settle, hfuel, workUpTo_of_work hfirst]
  obtain ⟨q, hrun, hran⟩ := hp.run (AwaitedCall.ofCommand now command)
  cases hran with
  | answered hcalls hturns houtcome hjournal hnotes =>
    have hstands : (r.advance now (.run p.calls.length)).Stands q none :=
      h.advance hrun hjournal hnotes
    have hrest : q.AtRest := hp.of_answered hcalls (hturns ▸ hp.turns)
    rw [hstands.workUpTo_of_atRest hrest]
    exact ⟨q, _, hstands, hrest, hcalls, houtcome⟩
  | signalling hcalls hturns hrule hnext hsignal hjournal hnotes =>
    have hbegun : (r.advance now (.run p.calls.length)).Stands q (some _) :=
      h.advance_signal hrun hjournal hnotes
    obtain ⟨u, result, _, hfinish, hend, hreleased, houtcome, hended, hsilent⟩ :=
      ControlPlane.Ran.finish hcalls hturns hrule hnext hsignal
    have hstep : q.step now (.finish p.calls.length none) = some u := hfinish
    have hstands := hbegun.dismiss.advance hstep hended hsilent
    have hrest : u.AtRest := hp.of_answered hend (by
      rw [hreleased, List.forall_mem_append, List.forall_mem_singleton]
      exact ⟨hp.turns, rfl⟩)
    rw [workUpTo_of_work hbegun.work_of_signal, hstands.workUpTo_of_atRest hrest]
    exact ⟨u, result, hstands, hrest, hend, houtcome⟩

/-- A call that is made while nothing is under way is performed: it is awaited, its signal returns, and
nothing is under way again. -/
theorem Stands.perform (h : r.Stands p none) (hp : p.AtRest) (now : Timestamp) (command : Command) :
    ∃ t q, r.perform now command = (t, some ((AwaitedCall.ofCommand now command).outcome p.snapshot).2) ∧
      t.Stands q none ∧ q.AtRest ∧
      q.snapshot = ((AwaitedCall.ofCommand now command).outcome p.snapshot).1 := by
  have hjournal : (p.made command).journal = p.journal ++ [.called p.calls.length command] := rfl
  have hmade : (r.advance now (.make command)).Stands (p.made command) none :=
    h.advance ControlPlane.step_make hjournal rfl
  obtain ⟨q, result, hstands, hrest, hcalls, houtcome⟩ := hmade.settle hp now
  refine ⟨_, q, ?_, hstands, hrest, by rw [houtcome]⟩
  simp only [houtcome, Rehearsal.perform, make, h.plane, hstands.result? hcalls]

theorem Stands.write {progress : Option Progress} (h : r.Stands p progress) (line : Log.Line) :
    (r.write line).Stands p progress :=
  ⟨h.engine, h.plane, h.progress⟩

end Rehearsal

/-! ### The reason of a failure -/

/-- Without a failure, no reason of one comes up. -/
theorem Accepts.failureReason_eq_null {s : Snapshot} {now : Timestamp} {rule : Rule}
    {outcome : Outcome} (h : Accepts s now rule outcome) (hreason : s.failureReason = .null)
    (hrule : ∀ reason, rule ≠ .fail reason) : (outcome.after s).failureReason = .null := by
  cases h with
  | start | pause | resume | recover | finalize | complete => rfl
  | fail => exact absurd rfl (hrule _)
  | retry | loseHistory | loseNothing => exact hreason

theorem Snapshot.failureReason_of_obey {s next : Snapshot} {now : Timestamp} {rules : List Rule}
    (h : s.obey now rules = .ok next) (hreason : s.failureReason = .null)
    (hrules : ∀ rule ∈ rules, ∀ reason, rule ≠ .fail reason) : next.failureReason = .null := by
  induction rules generalizing s with
  | nil => exact Except.ok.inj h ▸ hreason
  | cons rule rules ih =>
    obtain ⟨hrule, hrules⟩ := List.forall_mem_cons.mp hrules
    by_cases haccepted : (rule.apply s now).isAccepted = true
    · rw [obey_of_accepted haccepted] at h
      exact ih h ((Rule.accepts haccepted).failureReason_eq_null hreason hrule) hrules
    · cases houtcome : rule.apply s now with
      | rejected rejection => rw [obey_of_rejected houtcome] at h; cases h
      | kept => rw [houtcome] at haccepted; exact absurd rfl haccepted
      | moved next => rw [houtcome] at haccepted; exact absurd rfl haccepted

namespace Service

variable {r : Rehearsal} {s : Snapshot} {p : ControlPlane} {now : Timestamp} {request : Request}
  {endpoint : Endpoint} {command : Command}

/-- The snapshot after a demand by the rules alone: a command that is rejected changes nothing. -/
def Demand.follow (s : Snapshot) (now : Timestamp) : Demand → Snapshot
  | .command command => (s.obey now command.rules).toOption.getD s
  | _ => s

/-- The value with which a command is answered, by what its rules come to. -/
def verdict : Except Rejection Snapshot → Json
  | .ok _ => .obj [("ok", .bool true)]
  | .error rejection =>
    .obj [("ok", .bool false), ("error", .str rejection.message),
      ("errorCode", .str rejection.failure.code)]

theorem Request.demand_ne_report (reason : Json) :
    request.demand ≠ .command (.reportFailure reason) := by
  rw [demand]
  split
  next endpoint _ => cases endpoint <;> simp only [demandAt, demandOf] <;> (try split) <;> nofun
  all_goals nofun

/-- No request reports a failure. -/
theorem Request.rules_of_demand (h : request.demand = .command command) :
    ∀ rule ∈ command.rules, ∀ reason, rule ≠ .fail reason := by
  cases command with
  | reportFailure reason => exact absurd h (demand_ne_report reason)
  | finalize | start | pause | resume | reportHistoryLost => simp [Command.rules, Command.rule]

/-- What a command comes to for a service while nothing is under way. -/
theorem meet_command (h : r.Stands p none) (hp : p.AtRest) (now : Timestamp) (command : Command) :
    ∃ t q, meet r now (.command command) =
        (t, .ok (verdict (p.snapshot.obey now command.rules))) ∧
      t.Stands q none ∧ q.AtRest ∧
      q.snapshot = (p.snapshot.obey now command.rules).toOption.getD p.snapshot := by
  have hbegun : ∃ u : Rehearsal, u.Stands p none ∧
      perform r now command =
        ((u.perform now command).1, (u.perform now command).2.map CommandResponse.ofResult) := by
    cases command with
    | start included excluded => exact ⟨_, h.write _, rfl⟩
    | pause | resume | finalize | reportFailure | reportHistoryLost => exact ⟨r, h, rfl⟩
  obtain ⟨u, hu, hperform⟩ := hbegun
  obtain ⟨t, q, hresult, ht, hq, hnext⟩ := hu.perform hp now command
  obtain ⟨next, hobey, houtcome⟩ | ⟨rejection, hobey, houtcome⟩ :=
    AwaitedCall.outcome_ofCommand p.snapshot now command
  · refine ⟨t, q, ?_, ht, hq, ?_⟩
    · rw [meet, hperform, hresult, houtcome, hobey]
      rfl
    · rw [hnext, houtcome, hobey]
      rfl
  · refine ⟨t, q, ?_, ht, hq, ?_⟩
    · rw [meet, hperform, hresult, houtcome, hobey]
      rfl
    · rw [hnext, houtcome, hobey]
      rfl

/-- A service at which nothing is under way and whose migration is that of a snapshot without a failure. -/
structure Follows (r : Rehearsal) (s : Snapshot) : Prop where
  stands : ∃ p, r.Stands p none ∧ p.AtRest ∧ p.snapshot = s
  failureReason : s.failureReason = .null

theorem Follows.snapshot (h : Follows r s) : r.plane.snapshot = s := by
  obtain ⟨p, hstands, _, hsnapshot⟩ := h.stands
  rw [hstands.plane, hsnapshot]

/-- A request is answered. -/
theorem Follows.answer (h : Follows r s) (now : Timestamp) (request : Request) :
    Follows (answer r now request).1 (request.demand.follow s now) := by
  rw [Service.answer]
  cases hdemand : request.demand with
  | command command =>
    obtain ⟨p, hstands, hp, rfl⟩ := h.stands
    obtain ⟨t, q, hmeet, ht, hq, hsnapshot⟩ := meet_command hstands hp now command
    rw [hmeet]
    refine ⟨⟨q, ht, hq, hsnapshot⟩, ?_⟩
    rw [Demand.follow]
    cases hobey : p.snapshot.obey now command.rules with
    | error rejection => exact h.failureReason
    | ok next =>
      exact Snapshot.failureReason_of_obey hobey h.failureReason (Request.rules_of_demand hdemand)
  | health | status | faulty | wrongMethod | redirect | nowhere => exact h

/-- A request at the path of an endpoint by one of its methods leads there, whatever its body. -/
theorem route_of_path {method : String} (hmethod : method ∈ endpoint.methods)
    (contentType : Option String) (body : String) :
    Request.route ⟨method, endpoint.path, contentType, body⟩ = .endpoint endpoint := by
  cases endpoint with
  | status =>
    obtain rfl | rfl : method = "GET" ∨ method = "POST" := by simpa [Endpoint.methods] using hmethod
    · cbv
    · cbv
  | health => obtain rfl := List.mem_singleton.mp hmethod; cbv
  | start | pause | resume | finalize => obtain rfl := List.mem_singleton.mp hmethod; cbv

/-- A request that leads to an endpoint asks for more than the head. -/
theorem Request.verb_ne_head (h : request.route = .endpoint endpoint) : request.verb ≠ "HEAD" := by
  intro hhead
  rw [route, hhead] at h
  split at h
  · split at h
    next reached _ hmethod => cases reached <;> exact absurd hmethod (by decide)
    · cases h
  · split at h <;> cases h

theorem answer_of_route (h : request.route = .endpoint endpoint) :
    answer r now request = meet r now (request.demandAt endpoint) := by
  simp only [answer, Request.demand, h, Request.verb_ne_head h, if_false]

end Service

end Cutover
