import Cutover.Proofs.AwaitedCall
import Cutover.Proofs.QueueProgress

/-!
# Calls that are awaited while no other call is pending

A call is made when all others are done, and no other is made or cancelled until it is answered.  Turns that
cancelled calls have left behind may still have to be given up then, so the call may wait for its turn.
Whatever happens in the meantime, the call is answered as it would be if nothing else were under way
(`Awaits.outcome`): the snapshot, the result and the signal are those of the awaited call by the rules alone
(`AwaitedCall.outcome`, `AwaitedCall.signal?`).  And it can always come to its answer (`exists_awaits`).

How far the call has come, and what has come of it, is `Stage`; every event keeps that (`Step.stage`).
-/

namespace Cutover

open Journal

/-- Whether an event may happen while one call is awaited whose signal ends in the given way: no call is
made, and none is cancelled. -/
def Event.isAwaiting (failure : Option String) : Event → Bool
  | .make _ => false
  | .cancel _ => false
  | .finish _ ending => ending = failure
  | .run _ => true
  | .wake _ => true
  | .handOver _ => true

namespace ControlPlane

variable {p q r : ControlPlane} {first : Snapshot} {now : Timestamp} {event : Event} {call : CallId}
  {command : Command} {failure : Option String} {phase : Phase} {events : List Timed}

/-- All calls are done. -/
def HasNoPending (p : ControlPlane) : Prop :=
  ∀ c ∈ p.calls, c.phase.isDone = true

/-- A call is made, and no other is made or cancelled until it is answered; if it has a signal, that ends in
the given way. -/
def Awaits (p : ControlPlane) (command : Command) (failure : Option String) (q : ControlPlane) : Prop :=
  ∃ now events result, p.runAll ((now, .make command) :: events) = some q ∧
    (∀ e ∈ events, e.2.isAwaiting failure = true) ∧
    q.calls[p.calls.length]? = some ⟨command, .answered result⟩

/-- Calls are made one after another, each of them once the one before it was answered. -/
inductive AwaitsAll : ControlPlane → List (Command × Option String) → ControlPlane → Prop
  | nil (p : ControlPlane) : AwaitsAll p [] p
  | cons {p q r : ControlPlane} {command : Command} {failure : Option String}
      {calls : List (Command × Option String)} (h : Awaits p command failure q)
      (rest : AwaitsAll q calls r) : AwaitsAll p ((command, failure) :: calls) r

/-! ### How far the call has come -/

/-- What has come of a call that was made on `p`, by the phase in which it is. -/
inductive Stage (p : ControlPlane) (command : Command) (failure : Option String) (r : ControlPlane) :
    Phase → Prop
  /-- Nothing has. -/
  | made (hsnapshot : r.snapshot = p.snapshot) (hsignals : r.journal.signals = p.journal.signals) :
    Stage p command failure r .made
  /-- Its rule was accepted. -/
  | waiting {turn : Nat} {ran : Timestamp}
      (hrule : (command.rule.apply p.snapshot ran).isAccepted = true)
      (hnext : r.snapshot = (command.rule.apply p.snapshot ran).after p.snapshot)
      (hsignals : r.journal.signals = p.journal.signals) :
    Stage p command failure r (.waiting turn r.snapshot)
  /-- Its rule was accepted, and its signal has begun. -/
  | signalling {turn : Nat} {ran : Timestamp} {signal : Signal}
      (hrule : (command.rule.apply p.snapshot ran).isAccepted = true)
      (hnext : r.snapshot = (command.rule.apply p.snapshot ran).after p.snapshot)
      (hsignal : command.signal? r.snapshot = some signal)
      (hsignals : r.journal.signals = p.journal.signals ++ [(p.calls.length, signal)]) :
    Stage p command failure r (.signalling turn r.snapshot)
  /-- It is answered as the rules say. -/
  | answered {a : AwaitedCall} {result : CommandResult} (hcommand : a.command = command)
      (hfailure : a.failure = failure) (houtcome : a.outcome p.snapshot = (r.snapshot, result))
      (hsignals : r.journal.signals =
        p.journal.signals ++ ((a.signal? p.snapshot).map (p.calls.length, ·)).toList) :
    Stage p command failure r (.answered result)

/-- The call that was made is the only one that is pending. -/
theorem HasNoPending.eq_of_pending (hp : p.HasNoPending)
    (hcalls : r.calls = p.calls ++ [⟨command, phase⟩]) {other : Command} {later : Phase}
    (hcall : r.calls[call]? = some ⟨other, later⟩) (hlater : later.isDone = false) :
    call = p.calls.length ∧ other = command ∧ later = phase := by
  rw [hcalls] at hcall
  rcases Nat.lt_or_ge call p.calls.length with hlt | hge
  · -- the earlier calls are done
    rw [List.getElem?_append_left hlt] at hcall
    have hdone : later.isDone = true := hp _ (List.mem_of_getElem? hcall)
    rw [hlater] at hdone
    cases hdone
  · rw [List.getElem?_append_right hge, List.getElem?_singleton] at hcall
    split at hcall
    case isTrue hzero =>
      obtain ⟨rfl, rfl⟩ := Call.mk.inj (Option.some.inj hcall)
      exact ⟨Nat.le_antisymm (Nat.le_of_sub_eq_zero hzero) hge, rfl, rfl⟩
    case isFalse => cases hcall

/-- A stage depends on the snapshot and on the signals alone. -/
theorem Stage.congr (h : Stage p command failure r phase) (hsnapshot : q.snapshot = r.snapshot)
    (hsignals : q.journal.signals = r.journal.signals) : Stage p command failure q phase := by
  cases h with
  | made hs hj => exact .made (hsnapshot.trans hs) (hsignals.trans hj)
  | waiting hrule hnext hj =>
    rw [← hsnapshot] at hnext ⊢
    exact .waiting hrule hnext (hsignals.trans hj)
  | signalling hrule hnext hsignal hj =>
    rw [← hsnapshot] at hnext hsignal ⊢
    exact .signalling hrule hnext hsignal (hsignals.trans hj)
  | answered hcommand hfailure houtcome hj =>
    rw [← hsnapshot] at houtcome
    exact .answered hcommand hfailure houtcome (hsignals.trans hj)

/-- A call is answered that has sent no signal. -/
theorem Stage.of_unsent {a : AwaitedCall} {result : CommandResult}
    (hsent : a.signal? p.snapshot = none) (houtcome : a.outcome p.snapshot = (q.snapshot, result))
    (hsignals : q.journal.signals = p.journal.signals) :
    Stage p a.command a.failure q (.answered result) := by
  refine .answered rfl rfl houtcome ?_
  rw [hsent, hsignals]
  exact (List.append_nil _).symm

/-- A call is answered whose signal has ended. -/
theorem Stage.of_sent {a : AwaitedCall} {result : CommandResult} {signal : Signal}
    (hrule : (a.command.rule.apply p.snapshot a.ran).isAccepted = true)
    (hsignal : a.command.signal? ((a.command.rule.apply p.snapshot a.ran).after p.snapshot) = some signal)
    (houtcome : a.outcome p.snapshot = (q.snapshot, result))
    (hsignals : q.journal.signals = p.journal.signals ++ [(p.calls.length, signal)]) :
    Stage p a.command a.failure q (.answered result) := by
  refine .answered rfl rfl houtcome ?_
  rw [AwaitedCall.signal?_of_accepted hrule, hsignal]
  exact hsignals

/-- Every event that may happen keeps what has come of the call. -/
theorem Step.stage (hstep : Step r now event q) (hevent : event.isAwaiting failure = true)
    (hp : p.HasNoPending) (hr : r.Queued) (hcalls : r.calls = p.calls ++ [⟨command, phase⟩])
    (h : Stage p command failure r phase) :
    ∃ later, q.calls = p.calls ++ [⟨command, later⟩] ∧ Stage p command failure q later := by
  have hset (later : Phase) : (r.setPhase p.calls.length later).calls =
      p.calls ++ [⟨command, later⟩] := calls_setPhase_last hcalls
  cases hstep with
  | make | withdraw | miss | leave | interrupt => cases hevent
  | handOver => exact ⟨phase, hcalls, h.congr rfl rfl⟩
  | @reject call other rejection result hcall hrule hresult =>
    obtain ⟨rfl, rfl, rfl⟩ := hp.eq_of_pending hcalls hcall rfl
    obtain ⟨hsnapshot, hsignals⟩ := h
    rw [hsnapshot] at hrule hresult
    have houtcome : AwaitedCall.outcome ⟨other, now, now, now, failure⟩ p.snapshot =
        (r.snapshot, result) := by
      rw [hsnapshot, hresult]
      exact AwaitedCall.outcome_of_rejected hrule
    have hsent : AwaitedCall.signal? ⟨other, now, now, now, failure⟩ p.snapshot = none :=
      AwaitedCall.signal?_of_rejected (by rw [hrule]; rfl)
    refine ⟨.answered result, hset _, .of_unsent hsent houtcome ?_⟩
    rw [signals_append, signals_append, signals_commitNotes, hsignals]
    exact List.append_nil _
  | @report call other next result hcall hrule hnext hsignal hresult =>
    obtain ⟨rfl, rfl, rfl⟩ := hp.eq_of_pending hcalls hcall rfl
    obtain ⟨hsnapshot, hsignals⟩ := h
    rw [hsnapshot] at hrule hnext
    have houtcome : AwaitedCall.outcome ⟨other, now, now, now, failure⟩ p.snapshot = (next, result) := by
      rw [AwaitedCall.outcome, Outcome.rejection?_eq_none.mpr hrule, ← hnext, hsignal, hresult]
    have hsent : AwaitedCall.signal? ⟨other, now, now, now, failure⟩ p.snapshot = none := by
      rw [AwaitedCall.signal?_of_accepted hrule, ← hnext, hsignal]
    refine ⟨.answered result, hset _, .of_unsent hsent houtcome ?_⟩
    rw [signals_append, signals_append, signals_append, signals_commitNotes,
      (silent_reportNotes _ _ _).signals, hsignals]
    exact List.append_nil _
  | @enter call other next signal hcall hrule hnext hsignal hcome =>
    obtain ⟨rfl, rfl, rfl⟩ := hp.eq_of_pending hcalls hcall rfl
    obtain ⟨hsnapshot, hsignals⟩ := h
    rw [hsnapshot] at hrule hnext
    refine ⟨.signalling r.turns.length next, hset _, .signalling hrule hnext hsignal ?_⟩
    rw [signals_append, signals_append, signals_commitNotes, hsignals]
    rfl
  | @queue call other next signal hcall hrule hnext hsignal hcome =>
    obtain ⟨rfl, rfl, rfl⟩ := hp.eq_of_pending hcalls hcall rfl
    obtain ⟨hsnapshot, hsignals⟩ := h
    rw [hsnapshot] at hrule hnext
    refine ⟨.waiting r.turns.length next, hset _, .waiting hrule hnext ?_⟩
    rw [signals_append, signals_commitNotes, hsignals, List.append_nil]
  | @wake call other turn accepted t hcall hturn hcome =>
    obtain ⟨rfl, rfl, rfl⟩ := hp.eq_of_pending hcalls hcall rfl
    cases h with
    | waiting hrule hnext hsignals =>
      -- the turn that the call holds has the signal of its command
      obtain ⟨signal, hheld, hsignal⟩ := hr.holds hcall rfl
      obtain rfl : t = _ := Option.some.inj (hturn.symm.trans hheld)
      refine ⟨.signalling turn r.snapshot, hset _, .signalling hrule hnext hsignal ?_⟩
      rw [signals_append, hsignals]
      rfl
  | @fail call other turn accepted cause result hcall hresult =>
    obtain ⟨rfl, rfl, rfl⟩ := hp.eq_of_pending hcalls hcall rfl
    obtain rfl : some cause = failure := of_decide_eq_true hevent
    cases h with
    | @signalling _ ran signal hrule hnext hsignal hsignals =>
      have houtcome : AwaitedCall.outcome ⟨other, now, ran, now, some cause⟩ p.snapshot =
          (r.snapshot, result) := by
        rw [hresult, hnext]
        exact AwaitedCall.outcome_of_failure hrule (hnext ▸ hsignal) rfl
      refine ⟨.answered result, hset _, ?_⟩
      refine Stage.of_sent (a := ⟨other, now, ran, now, some cause⟩) hrule (hnext ▸ hsignal) houtcome ?_
      rw [signals_append, hsignals]
      exact List.append_nil _
  | @deliver call other turn accepted result hcall hfinal hresult =>
    obtain ⟨rfl, rfl, rfl⟩ := hp.eq_of_pending hcalls hcall rfl
    obtain rfl : none = failure := of_decide_eq_true hevent
    cases h with
    | @signalling _ ran signal hrule hnext hsignal hsignals =>
      have houtcome : AwaitedCall.outcome ⟨other, now, ran, now, none⟩ p.snapshot =
          (r.snapshot, result) := by
        rw [hresult, hnext]
        exact AwaitedCall.outcome_of_accepted hrule rfl hfinal
      refine ⟨.answered result, hset _, ?_⟩
      refine Stage.of_sent (a := ⟨other, now, ran, now, none⟩) hrule (hnext ▸ hsignal) houtcome ?_
      rw [signals_append, hsignals]
      exact List.append_nil _
  | @complete call other turn accepted next result hcall hfinal hcompleted hresult =>
    obtain ⟨rfl, rfl, rfl⟩ := hp.eq_of_pending hcalls hcall rfl
    obtain rfl : none = failure := of_decide_eq_true hevent
    cases h with
    | @signalling _ ran signal hrule hnext hsignal hsignals =>
      have houtcome : AwaitedCall.outcome ⟨other, now, ran, now, none⟩ p.snapshot = (next, result) := by
        cases other with
        | finalize ignoreHistoryLost =>
          rw [hresult, hcompleted, hnext]
          exact AwaitedCall.outcome_of_finalize rfl rfl hrule rfl rfl
        | _ => cases hfinal
      have hsilent : signals (.ended p.calls.length none ::
          (r.commitNotes now p.calls.length .completeFinalize ++
            [.answered p.calls.length result])) = [] := by
        rw [← List.singleton_append, signals_append, signals_append, signals_commitNotes]
        rfl
      refine ⟨.answered result, hset _, ?_⟩
      refine Stage.of_sent (a := ⟨other, now, ran, now, none⟩) hrule (hnext ▸ hsignal) houtcome ?_
      rw [signals_append, hsilent, hsignals]
      exact List.append_nil _

/-! ### What comes of the call -/

/-- Whatever happens while the call is pending keeps what has come of it. -/
theorem Stage.of_runAll (hp : p.HasNoPending) (hr : Reachable first r)
    (hcalls : r.calls = p.calls ++ [⟨command, phase⟩]) (h : Stage p command failure r phase)
    (hrun : r.runAll events = some q) (hevents : ∀ e ∈ events, e.2.isAwaiting failure = true) :
    ∃ later, q.calls = p.calls ++ [⟨command, later⟩] ∧ Stage p command failure q later := by
  induction events generalizing r phase with
  | nil =>
    obtain rfl := Option.some.inj hrun
    exact ⟨phase, hcalls, h⟩
  | cons timed events ih =>
    obtain ⟨now, event⟩ := timed
    rw [runAll_cons, Option.bind_eq_some_iff] at hrun
    obtain ⟨next, hstep, hrest⟩ := hrun
    obtain ⟨hevent, hlater⟩ := List.forall_mem_cons.mp hevents
    obtain ⟨later, hnext, hstage⟩ := (step_eq_some hstep).stage hevent hp hr.queued hcalls h
    exact ih (hr.step hstep) hnext hstage hrest hlater

/-- The call has just been made. -/
theorem stage_made (p : ControlPlane) (command : Command) (failure : Option String) :
    Stage p command failure (p.made command) .made := by
  refine .made rfl ?_
  rw [made, signals_append]
  exact List.append_nil _

/-- A call that is awaited while no other is pending is answered as the rules say, and sends the signal of its
command if it is accepted. -/
theorem Awaits.outcome (h : Awaits p command failure q) (hp : p.HasNoPending) (hr : Reachable first p) :
    ∃ made ran ended,
      q.snapshot = (AwaitedCall.outcome ⟨command, made, ran, ended, failure⟩ p.snapshot).1 ∧
      q.calls = p.calls ++ [⟨command,
        .answered (AwaitedCall.outcome ⟨command, made, ran, ended, failure⟩ p.snapshot).2⟩] ∧
      q.journal.signals = p.journal.signals ++
        ((AwaitedCall.signal? ⟨command, made, ran, ended, failure⟩ p.snapshot).map
          (p.calls.length, ·)).toList := by
  obtain ⟨now, events, result, hrun, hevents, hanswered⟩ := h
  rw [runAll_cons, step_make, Option.bind_some] at hrun
  obtain ⟨phase, hcalls, hstage⟩ := (stage_made p command failure).of_runAll hp
    (hr.step (@step_make p now command)) rfl hrun hevents
  rw [hcalls, List.getElem?_concat_length] at hanswered
  obtain rfl : phase = .answered result := (Call.mk.inj (Option.some.inj hanswered)).2
  cases hstage with
  | @answered a _ hcommand hfailure houtcome hsignals =>
    obtain ⟨_, made, ran, ended, _⟩ := a
    subst hcommand hfailure
    refine ⟨made, ran, ended, ?_, ?_, hsignals⟩
    · rw [houtcome]
    · rw [houtcome, hcalls]

theorem Awaits.reachable (h : Awaits p command failure q) (hr : Reachable first p) :
    Reachable first q := by
  obtain ⟨before, hbefore⟩ := hr
  obtain ⟨now, events, _, hrun, _⟩ := h
  refine ⟨before ++ (now, .make command) :: events, ?_⟩
  rw [runAll_append, hbefore]
  exact hrun

/-- No call is pending again once the call was answered. -/
theorem Awaits.hasNoPending (h : Awaits p command failure q) (hp : p.HasNoPending)
    (hr : Reachable first p) : q.HasNoPending := by
  obtain ⟨_, _, _, _, hcalls, _⟩ := h.outcome hp hr
  rw [HasNoPending, hcalls, List.forall_mem_append, List.forall_mem_singleton]
  exact ⟨hp, rfl⟩

/-! ### The call can come to its answer -/

/-- A call that is left to itself is answered, or its signal is in progress. -/
theorem exists_signalling_or_answered (hp : p.HasNoPending) (hr : Reachable first p)
    (now : Timestamp) (command : Command) (failure : Option String) :
    ∃ events q, p.runAll ((now, .make command) :: events) = some q ∧
      (∀ e ∈ events, e.2.isAwaiting failure = true) ∧
      ((∃ result, q.calls[p.calls.length]? = some ⟨command, .answered result⟩) ∨
        ∃ turn accepted, q.calls[p.calls.length]? = some ⟨command, .signalling turn accepted⟩) := by
  have hmade : Reachable first (p.made command) := hr.step (@step_make p now command)
  obtain ⟨events, q, hinternal, hrun, hquiet⟩ := hmade.exists_quiet
  have hevents : ∀ e ∈ events, e.2.isAwaiting failure = true := by
    intro e hmem
    have he := hinternal e hmem
    cases hevent : e.2 with
    | run | wake | handOver => rfl
    | make | finish | cancel => rw [hevent] at he; cases he
  have hq : Reachable first q := by
    obtain ⟨before, hbefore⟩ := hmade
    exact ⟨before ++ events, by rw [runAll_append, hbefore]; exact hrun⟩
  obtain ⟨phase, hcalls, hstage⟩ := (stage_made p command failure).of_runAll hp hmade rfl hrun hevents
  have hcall : q.calls[p.calls.length]? = some ⟨command, phase⟩ := by
    rw [hcalls, List.getElem?_concat_length]
  obtain ⟨_, hcallsQuiet, _⟩ := isQuiet_iff.mp hquiet
  refine ⟨events, q, ?_, hevents, ?_⟩
  · rw [runAll_cons, step_make]
    exact hrun
  · cases hstage with
    | made => exact absurd (mem_readyCalls.mpr ⟨_, hcall⟩) (hcallsQuiet _)
    | @waiting turn ran =>
      -- in a quiet state without a signal in progress the turn of the call was given up
      have hidle (call : CallId) (other : Command) (turn : Nat) (accepted : Snapshot) :
          q.calls[call]? ≠ some ⟨other, .signalling turn accepted⟩ := by
        intro hother
        obtain ⟨_, _, hphase⟩ := hp.eq_of_pending hcalls hother rfl
        cases hphase
      obtain ⟨signal, hheld, _⟩ := hq.queued.holds hcall rfl
      have hlt : turn < q.turns.length := (List.getElem?_eq_some_iff.mp hheld).1
      obtain ⟨t, hturn, hstatus⟩ := hq.queued.isReleased_of_isQuiet hquiet hidle hlt
      obtain rfl : t = _ := Option.some.inj (hturn.symm.trans hheld)
      cases hstatus
    | signalling => exact Or.inr ⟨_, _, hcall⟩
    | answered => exact Or.inl ⟨_, hcall⟩

/-- A signal that is in progress can end in any way, and then its call is answered. -/
theorem exists_finish {turn : Nat} {accepted : Snapshot}
    (hcall : p.calls[call]? = some ⟨command, .signalling turn accepted⟩) (now : Timestamp)
    (failure : Option String) :
    ∃ q result, p.step now (.finish call failure) = some q ∧
      q.calls[call]? = some ⟨command, .answered result⟩ := by
  have hoccurs : p.step now (.finish call failure) =
      some (p.finishSignal now call command turn accepted failure) := by
    simp [step, hcall]
  have hstep : Step p now (.finish call failure)
      (p.finishSignal now call command turn accepted failure) := step_finish failure hcall
  generalize p.finishSignal now call command turn accepted failure = q at hoccurs hstep
  have hset (result : CommandResult) : (p.setPhase call (.answered result)).calls[call]? =
      some ⟨command, .answered result⟩ := getElem?_setPhase_self hcall
  cases hstep with
  | @fail _ other turn accepted cause result hheld hresult => exact ⟨_, result, hoccurs, hset result⟩
  | @deliver _ other turn accepted result hheld hfinal hresult => exact ⟨_, result, hoccurs, hset result⟩
  | @complete _ other turn accepted next result hheld hfinal hnext hresult =>
    exact ⟨_, result, hoccurs, hset result⟩

/-- A call that is made while no other is pending can come to its answer. -/
theorem exists_awaits (hp : p.HasNoPending) (hr : Reachable first p) (command : Command)
    (failure : Option String) : ∃ q, Awaits p command failure q := by
  obtain ⟨events, q, hrun, hevents, hanswered | ⟨turn, accepted, hcall⟩⟩ :=
    exists_signalling_or_answered hp hr default command failure
  · obtain ⟨result, hcall⟩ := hanswered
    exact ⟨q, default, events, result, hrun, hevents, hcall⟩
  · -- the signal ends in the given way
    obtain ⟨next, result, hstep, hcall⟩ := exists_finish hcall default failure
    refine ⟨next, default, events ++ [(default, .finish p.calls.length failure)], result, ?_, ?_, hcall⟩
    · rw [← List.cons_append, runAll_concat, hrun]
      exact hstep
    · rw [List.forall_mem_append, List.forall_mem_singleton]
      exact ⟨hevents, decide_eq_true rfl⟩

/-- Calls that are made one after another can all come to their answers. -/
theorem exists_awaitsAll (hp : p.HasNoPending) (hr : Reachable first p)
    (calls : List (Command × Option String)) : ∃ q, AwaitsAll p calls q := by
  induction calls generalizing p with
  | nil => exact ⟨p, .nil p⟩
  | cons call calls ih =>
    obtain ⟨command, failure⟩ := call
    obtain ⟨q, hawaits⟩ := exists_awaits hp hr command failure
    obtain ⟨r, hrest⟩ := ih (hawaits.hasNoPending hp hr) (hawaits.reachable hr)
    exact ⟨r, .cons hawaits hrest⟩

end ControlPlane

end Cutover
