import Cutover.Proofs.CallLife

/-!
# Calls that are awaited one after another

A call that is made while nothing is under way, and awaited before anything else is done, runs at once; if
it has a signal, the signal begins at once, as no other is in progress, and once it has ended the call is
answered and nothing is under way again (`AtRest.await`).  What comes of the call depends on the snapshot
alone, and is written down without calls and turns as `AwaitedCall.outcome`: calls that are awaited are
applications of the rules one after another.
-/

namespace Cutover

/-- A call that is awaited: its command, when it is made, runs and its signal ends, and how its signal
ends. -/
structure AwaitedCall where
  command : Command
  made : Timestamp
  ran : Timestamp
  ended : Timestamp
  /-- Why the signal fails, if there is one and it does. -/
  failure : Option String

/-- What comes of an awaited call by the rules alone: the snapshot that it leads to, and its result. -/
def AwaitedCall.outcome (a : AwaitedCall) (s : Snapshot) : Snapshot × CommandResult :=
  let begun := a.command.rule.apply s a.ran
  let accepted := begun.after s
  match begun.rejection?, a.command.signal? accepted, a.failure with
  | some rejection, _, _ =>
    (s, { command := a.command.name, snapshot := s, error := some rejection })
  | none, none, _ => (accepted, { command := a.command.name, snapshot := accepted })
  | none, some _, some cause =>
    (accepted, { command := a.command.name, snapshot := accepted, signalError := some cause })
  | none, some _, none =>
    if a.command.isFinalize then
      let completed := Rule.completeFinalize.apply accepted a.ended
      (completed.after accepted,
        { command := a.command.name, snapshot := completed.after accepted,
          superseded := completed.rejection? })
    else (accepted, { command := a.command.name, snapshot := accepted })

namespace AwaitedCall

variable {a : AwaitedCall} {s : Snapshot}

theorem outcome_of_rejected {rejection : Rejection}
    (hrule : a.command.rule.apply s a.ran = .rejected rejection) :
    a.outcome s = (s, { command := a.command.name, snapshot := s, error := some rejection }) := by
  rw [outcome, hrule]
  rfl

/-- An accepted command whose signal returns, or that has none. -/
theorem outcome_of_accepted (hrule : (a.command.rule.apply s a.ran).isAccepted = true)
    (hfailure : a.failure = none) (hcommand : a.command.isFinalize = false) :
    a.outcome s = ((a.command.rule.apply s a.ran).after s,
      { command := a.command.name, snapshot := (a.command.rule.apply s a.ran).after s }) := by
  rw [outcome, Outcome.rejection?_eq_none.mpr hrule, hfailure, hcommand]
  cases a.command.signal? _ <;> rfl

/-- An accepted finalize whose signal returns. -/
theorem outcome_of_finalize {ignoreHistoryLost : Bool} {begun completed : Outcome}
    (hcommand : a.command = .finalize ignoreHistoryLost)
    (hbegun : (Rule.beginFinalize ignoreHistoryLost).apply s a.ran = begun)
    (hrule : begun.isAccepted = true) (hfailure : a.failure = none)
    (hcompleted : Rule.completeFinalize.apply (begun.after s) a.ended = completed) :
    a.outcome s = (completed.after (begun.after s),
      { command := a.command.name, snapshot := completed.after (begun.after s),
        superseded := completed.rejection? }) := by
  rw [outcome, hcommand, Command.rule, hbegun, Outcome.rejection?_eq_none.mpr hrule, hfailure]
  rw [← hcompleted]
  rfl

/-- An accepted command whose signal fails. -/
theorem outcome_of_failure {signal : Signal} {cause : String}
    (hrule : (a.command.rule.apply s a.ran).isAccepted = true)
    (hsignal : a.command.signal? ((a.command.rule.apply s a.ran).after s) = some signal)
    (hfailure : a.failure = some cause) :
    a.outcome s = ((a.command.rule.apply s a.ran).after s,
      { command := a.command.name, snapshot := (a.command.rule.apply s a.ran).after s,
        signalError := some cause }) := by
  rw [outcome, Outcome.rejection?_eq_none.mpr hrule, hsignal, hfailure]

/-- The signal that an awaited call sends: that of its command, if it is accepted. -/
def signal? (a : AwaitedCall) (s : Snapshot) : Option Signal :=
  let begun := a.command.rule.apply s a.ran
  if begun.isAccepted then a.command.signal? (begun.after s) else none

/-- A rejected call sends no signal. -/
theorem signal?_of_rejected (hrule : (a.command.rule.apply s a.ran).isAccepted = false) :
    a.signal? s = none :=
  if_neg (by rw [hrule]; exact Bool.false_ne_true)

theorem signal?_of_accepted (hrule : (a.command.rule.apply s a.ran).isAccepted = true) :
    a.signal? s = a.command.signal? ((a.command.rule.apply s a.ran).after s) := if_pos hrule

/-- The snapshot that awaited calls lead to, one after another. -/
def afterAll (s : Snapshot) (calls : List AwaitedCall) : Snapshot :=
  calls.foldl (fun s a => (a.outcome s).1) s

/-- Awaited calls as they were answered, one after another. -/
def answers : Snapshot → List AwaitedCall → List Call
  | _, [] => []
  | s, a :: calls => ⟨a.command, .answered (a.outcome s).2⟩ :: answers (a.outcome s).1 calls

theorem map_command_answers (s : Snapshot) (calls : List AwaitedCall) :
    (answers s calls).map (·.command) = calls.map (·.command) := by
  induction calls generalizing s with
  | nil => rfl
  | cons a calls ih => rw [answers, List.map_cons, List.map_cons, ih]

end AwaitedCall

namespace ControlPlane

variable {p q : ControlPlane} {now : Timestamp} {call : CallId} {command : Command} {turn : Nat}

/-- Nothing is under way: every call is done, and every turn was given up. -/
structure AtRest (p : ControlPlane) : Prop where
  calls : ∀ c ∈ p.calls, c.phase.isDone = true
  turns : ∀ t ∈ p.turns, t.status = .released

/-- A call is made. -/
def made (p : ControlPlane) (command : Command) : ControlPlane :=
  { p with
    calls := p.calls ++ [⟨command, .made⟩]
    journal := p.journal ++ [.called p.calls.length command] }

/-- A call is made and runs, and its signal ends if one has begun. -/
def await (p : ControlPlane) (a : AwaitedCall) : Option ControlPlane :=
  (p.runAll [(a.made, .make a.command), (a.ran, .run p.calls.length)]).bind fun q =>
    match q.calls[p.calls.length]? with
    | some ⟨_, .signalling ..⟩ => q.step a.ended (.finish p.calls.length a.failure)
    | _ => some q

/-- Calls are awaited one after another. -/
def awaitAll (p : ControlPlane) (calls : List AwaitedCall) : Option ControlPlane :=
  calls.foldlM await p

theorem atRest_idle (s : Snapshot) : (idle s).AtRest where
  calls _ hmem := absurd hmem List.not_mem_nil
  turns _ hmem := absurd hmem List.not_mem_nil

/-- Nothing is under way again once one more call was answered. -/
theorem AtRest.of_answered (h : p.AtRest) {result : CommandResult}
    (hcalls : q.calls = p.calls ++ [⟨command, .answered result⟩])
    (hturns : ∀ t ∈ q.turns, t.status = .released) : q.AtRest where
  calls := by
    rw [hcalls, List.forall_mem_append, List.forall_mem_singleton]
    exact ⟨h.calls, rfl⟩
  turns := hturns

/-- Every turn has come, the next one too. -/
theorem AtRest.hasCome (h : p.AtRest) (hle : turn ≤ p.turns.length) : p.hasCome turn = true := by
  cases turn with
  | zero => exact hasCome_zero
  | succ earlier =>
    rw [hasCome_succ, IsReleased]
    exact ⟨p.turns[earlier], List.getElem?_eq_getElem _, h.turns _ (List.getElem_mem _)⟩

/-! ### The last call and the last turn -/

theorem modify_concat {α : Type} (l : List α) (a : α) (f : α → α) :
    (l ++ [a]).modify l.length f = l ++ [f a] := by
  induction l with
  | nil => rfl
  | cons b l ih => rw [List.cons_append, List.length_cons, List.modify_succ_cons, ih, List.cons_append]

theorem calls_setPhase_last {calls : List Call} {c : Call} {phase : Phase}
    (h : p.calls = calls ++ [c]) :
    (p.setPhase calls.length phase).calls = calls ++ [⟨c.command, phase⟩] := by
  rw [setPhase, h, modify_concat]

theorem turns_setTurn_last {turns : List Turn} {t : Turn} {status : TurnStatus}
    (h : p.turns = turns ++ [t]) :
    (p.setTurn turns.length status).turns = turns ++ [⟨t.call, t.signal, status⟩] := by
  rw [setTurn, h, modify_concat]

/-! ### What happens while a call is awaited -/

/-- How far a call has come when it was made at rest and has run. -/
inductive Ran (p : ControlPlane) (a : AwaitedCall) (q : ControlPlane) : Prop
  /-- It was rejected, or has no signal, and is answered. -/
  | answered {result : CommandResult} {notes : Journal}
      (hcalls : q.calls = p.calls ++ [⟨a.command, .answered result⟩]) (hturns : q.turns = p.turns)
      (houtcome : a.outcome p.snapshot = (q.snapshot, result))
      (hjournal : q.journal = (p.made a.command).journal ++ notes) (hnotes : notes.signals = [])
  /-- Its signal has begun. -/
  | signalling {signal : Signal} {notes : Journal}
      (hcalls : q.calls = p.calls ++ [⟨a.command, .signalling p.turns.length q.snapshot⟩])
      (hturns : q.turns = p.turns ++ [⟨p.calls.length, signal, .held⟩])
      (hrule : (a.command.rule.apply p.snapshot a.ran).isAccepted = true)
      (hnext : q.snapshot = (a.command.rule.apply p.snapshot a.ran).after p.snapshot)
      (hsignal : a.command.signal? q.snapshot = some signal)
      (hjournal : q.journal = (p.made a.command).journal ++ notes)
      (hnotes : notes.signals = [(p.calls.length, signal)])

theorem step_make : p.step now (.make command) = some (p.made command) := rfl

theorem getElem?_made : (p.made command).calls[p.calls.length]? = some ⟨command, .made⟩ :=
  List.getElem?_concat_length

/-- A call that was made at rest runs. -/
theorem AtRest.run (h : p.AtRest) (a : AwaitedCall) :
    ∃ q, (p.made a.command).step a.ran (.run p.calls.length) = some q ∧ Ran p a q := by
  have hcall : (p.made a.command).calls[p.calls.length]? = some ⟨a.command, .made⟩ := getElem?_made
  have hstep : Step (p.made a.command) a.ran (.run p.calls.length)
      ((p.made a.command).runCall a.ran p.calls.length a.command) := step_run hcall
  refine ⟨(p.made a.command).runCall a.ran p.calls.length a.command, by simp [step, hcall], ?_⟩
  generalize (p.made a.command).runCall a.ran p.calls.length a.command = q at hstep
  have hphase (phase : Phase) : ((p.made a.command).setPhase p.calls.length phase).calls =
      p.calls ++ [⟨a.command, phase⟩] :=
    calls_setPhase_last (p := p.made a.command) (c := ⟨a.command, .made⟩) rfl
  cases hstep with
  | @reject _ command rejection result hmade hrule hresult =>
    obtain ⟨rfl, _⟩ := Call.mk.inj (Option.some.inj (hmade.symm.trans hcall))
    have hrule : a.command.rule.apply p.snapshot a.ran = .rejected rejection := hrule
    refine .answered (hphase _) rfl ?_ rfl ?_
    · rw [hresult, AwaitedCall.outcome, hrule]
      rfl
    · rw [Journal.signals_append, signals_commitNotes]
      rfl
  | @report _ command next result hmade hrule hnext hsignal hresult =>
    obtain ⟨rfl, _⟩ := Call.mk.inj (Option.some.inj (hmade.symm.trans hcall))
    have hrule : (a.command.rule.apply p.snapshot a.ran).isAccepted = true := hrule
    have hnext : next = (a.command.rule.apply p.snapshot a.ran).after p.snapshot := hnext
    refine .answered (hphase _) rfl ?_ rfl ?_
    · rw [hresult, AwaitedCall.outcome, Outcome.rejection?_eq_none.mpr hrule, ← hnext, hsignal]
    · rw [Journal.signals_append, signals_commitNotes, Journal.signals_append,
        (silent_reportNotes _ _ _).signals]
      rfl
  | @enter _ command next signal hmade hrule hnext hsignal hcome =>
    obtain ⟨rfl, _⟩ := Call.mk.inj (Option.some.inj (hmade.symm.trans hcall))
    refine .signalling (hphase _) rfl hrule hnext hsignal rfl ?_
    rw [Journal.signals_append, signals_commitNotes]
    rfl
  | queue hmade hrule hnext hsignal hcome =>
    -- the turn that is taken has come, as every turn before it was given up
    have hready : (p.made a.command).hasCome p.turns.length = true :=
      (hasCome_congr fun _ _ => rfl).trans (h.hasCome (Nat.le_refl _))
    cases hready.symm.trans hcome

/-- The signal of a call that was made at rest ends, and the call is answered. -/
theorem Ran.finish {a : AwaitedCall} {signal : Signal}
    (hcalls : q.calls = p.calls ++ [⟨a.command, .signalling p.turns.length q.snapshot⟩])
    (hturns : q.turns = p.turns ++ [⟨p.calls.length, signal, .held⟩])
    (hrule : (a.command.rule.apply p.snapshot a.ran).isAccepted = true)
    (hnext : q.snapshot = (a.command.rule.apply p.snapshot a.ran).after p.snapshot)
    (hsignal : a.command.signal? q.snapshot = some signal) :
    ∃ r result notes, q.step a.ended (.finish p.calls.length a.failure) = some r ∧
      r.calls = p.calls ++ [⟨a.command, .answered result⟩] ∧
      r.turns = p.turns ++ [⟨p.calls.length, signal, .released⟩] ∧
      a.outcome p.snapshot = (r.snapshot, result) ∧
      r.journal = q.journal ++ notes ∧ notes.signals = [] := by
  have hcall : q.calls[p.calls.length]? =
      some ⟨a.command, .signalling p.turns.length q.snapshot⟩ := by
    rw [hcalls, List.getElem?_concat_length]
  have hphase (result : CommandResult) :
      (q.setPhase p.calls.length (.answered result)).calls =
        p.calls ++ [⟨a.command, .answered result⟩] := calls_setPhase_last hcalls
  have hturn : (q.setTurn p.turns.length .released).turns =
      p.turns ++ [⟨p.calls.length, signal, .released⟩] := turns_setTurn_last hturns
  have hstep : Step q a.ended (.finish p.calls.length a.failure)
      (q.finishSignal a.ended p.calls.length a.command p.turns.length q.snapshot a.failure) :=
    step_finish a.failure hcall
  have hoccurs : q.step a.ended (.finish p.calls.length a.failure) =
      some (q.finishSignal a.ended p.calls.length a.command p.turns.length q.snapshot a.failure) := by
    simp [step, hcall]
  generalize q.finishSignal a.ended p.calls.length a.command p.turns.length q.snapshot a.failure = r
    at hoccurs hstep
  refine ⟨r, ?_⟩
  have houtcome : (a.command.rule.apply p.snapshot a.ran).rejection? = none :=
    Outcome.rejection?_eq_none.mpr hrule
  generalize hfailure : a.failure = failure at hoccurs hstep
  cases hstep with
  | @fail _ command turn accepted cause result hheld hresult =>
    obtain ⟨rfl, hphases⟩ := Call.mk.inj (Option.some.inj (hheld.symm.trans hcall))
    obtain ⟨rfl, rfl⟩ := Phase.signalling.inj hphases
    refine ⟨result, _, hoccurs, hphase result, hturn, ?_, rfl, rfl⟩
    rw [AwaitedCall.outcome, houtcome, ← hnext, hsignal, hfailure, hresult]
    rfl
  | @deliver _ command turn accepted result hheld hfinal hresult =>
    obtain ⟨rfl, hphases⟩ := Call.mk.inj (Option.some.inj (hheld.symm.trans hcall))
    obtain ⟨rfl, rfl⟩ := Phase.signalling.inj hphases
    refine ⟨result, _, hoccurs, hphase result, hturn, ?_, rfl, rfl⟩
    rw [AwaitedCall.outcome, houtcome, ← hnext, hsignal, hfailure, hresult]
    exact if_neg (by rw [hfinal]; exact Bool.false_ne_true)
  | @complete _ command turn accepted next result hheld hfinal hcompleted hresult =>
    obtain ⟨rfl, hphases⟩ := Call.mk.inj (Option.some.inj (hheld.symm.trans hcall))
    obtain ⟨rfl, rfl⟩ := Phase.signalling.inj hphases
    refine ⟨result, _, hoccurs, hphase result, hturn, ?_, rfl, ?_⟩
    · rw [AwaitedCall.outcome, houtcome, ← hnext, hsignal, hfailure, hresult, hcompleted]
      exact if_pos hfinal
    · have hnotes := @signals_commitNotes q a.ended p.calls.length .completeFinalize
      rw [← List.singleton_append, Journal.signals_append, Journal.signals_append, hnotes]
      rfl

/-- A call that is made at rest and awaited is answered, with what its command comes to by the rules alone,
and nothing is under way any more. -/
theorem AtRest.await (h : p.AtRest) (a : AwaitedCall) :
    ∃ q, p.await a = some q ∧ q.AtRest ∧ q.snapshot = (a.outcome p.snapshot).1 ∧
      q.calls = p.calls ++ [⟨a.command, .answered (a.outcome p.snapshot).2⟩] := by
  obtain ⟨q, hrun, hran⟩ := h.run a
  have hboth : p.runAll [(a.made, .make a.command), (a.ran, .run p.calls.length)] = some q := by
    rw [runAll_cons, step_make, Option.bind_some, runAll_cons, hrun]
    rfl
  cases hran with
  | answered hcalls hturns houtcome =>
    refine ⟨q, ?_, h.of_answered hcalls (hturns ▸ h.turns), ?_, ?_⟩
    · rw [ControlPlane.await, hboth, Option.bind_some, hcalls, List.getElem?_concat_length]
    · rw [houtcome]
    · rw [houtcome, hcalls]
  | signalling hcalls hturns hrule hnext hsignal =>
    obtain ⟨r, result, _, hstep, hend, hreleased, houtcome, _⟩ :=
      Ran.finish hcalls hturns hrule hnext hsignal
    refine ⟨r, ?_, h.of_answered hend ?_, ?_, ?_⟩
    · rw [ControlPlane.await, hboth, Option.bind_some, hcalls, List.getElem?_concat_length]
      exact hstep
    · rw [hreleased, List.forall_mem_append, List.forall_mem_singleton]
      exact ⟨h.turns, rfl⟩
    · rw [houtcome]
    · rw [houtcome, hend]

/-- Calls that are awaited one after another are answered, with what their commands come to by the rules
alone, one after another. -/
theorem AtRest.awaitAll (h : p.AtRest) (calls : List AwaitedCall) :
    ∃ q, p.awaitAll calls = some q ∧ q.AtRest ∧
      q.snapshot = AwaitedCall.afterAll p.snapshot calls ∧
      q.calls = p.calls ++ AwaitedCall.answers p.snapshot calls := by
  induction calls generalizing p with
  | nil => exact ⟨p, rfl, h, rfl, (List.append_nil _).symm⟩
  | cons a calls ih =>
    obtain ⟨q, hawait, hrest, hsnapshot, hcalls⟩ := h.await a
    obtain ⟨r, hall, hend, hlast, hanswers⟩ := ih hrest
    refine ⟨r, ?_, hend, ?_, ?_⟩
    · rw [ControlPlane.awaitAll, List.foldlM_cons, hawait]
      exact hall
    · rw [hlast, hsnapshot]
      rfl
    · rw [hanswers, hsnapshot, hcalls, List.append_assoc]
      rfl

end ControlPlane

end Cutover
