import Cutover.Proofs.CallLife
import Mathlib.Data.Nat.Count

/-!
# Rejected calls leave no trace

A call whose command is rejected changes nothing but its own result and the log: the snapshot, the turns,
the signals and the audit trail stay as they are.  So a run without its rejected calls is a run as well, in
which everything else happens as before.  Main statement: `rejected_calls_leave_no_trace`.

Without some of its calls, a run numbers the others anew (`renumber`).  `Reduced dropped p r` says that `r`
has come as far as `p`, but without the calls that `dropped` tells of.  Every part of an event keeps this
relation (`Reduced.note`, `Reduced.setPhase` and so on), so an event of another call happens in both runs
(`Reduced.step`), and an event of a rejected call in the longer one alone (`Reduced.skip`).
-/

namespace Cutover

open Journal

/-! ### Calls that are rejected -/

/-- Whether a call was answered with an error. -/
def Phase.isRejected : Phase → Bool
  | .answered result => result.error.isSome
  | _ => false

/-- The call that an event is about.  A call that is made gets the next number. -/
def Event.subject (made : Nat) : Event → Option CallId
  | .make _ => some made
  | .run call => some call
  | .wake call => some call
  | .finish call _ => some call
  | .cancel call => some call
  | .handOver _ => none

/-- A call that was answered with an error was rejected, and nothing else is told of it. -/
theorem Life.eq_of_error {call : CallId} {command : Command} {result : CommandResult} {told : Journal}
    {rejection : Rejection} (h : Life call (some ⟨command, .answered result⟩) told)
    (herror : result.error = some rejection) :
    ∃ now, told = [.called call command,
      .applied call command.rule result.snapshot now (.rejected rejection), .answered call result] := by
  cases h with
  | @rejected _ before now _ _ _ hrule hout hresult =>
    subst hresult hout
    cases herror
    exact ⟨now, rfl⟩
  | reported _ _ _ hresult => rw [hresult] at herror; cases herror
  | failed _ _ _ hresult => rw [hresult] at herror; cases herror
  | delivered _ _ _ _ hresult => rw [hresult] at herror; cases herror
  | completed _ _ _ _ _ hresult => rw [hresult] at herror; cases herror

namespace ControlPlane

/-- Whether a call was rejected. -/
def rejects (p : ControlPlane) (call : CallId) : Bool :=
  (p.calls[call]?).any (·.phase.isRejected)

variable {p q final : ControlPlane} {now : Timestamp} {event : Event} {events : List Timed} {call : CallId}
  {command : Command}

theorem rejects_of_getElem? {c : Call} (h : p.calls[call]? = some c) :
    p.rejects call = c.phase.isRejected := by
  rw [rejects, h, Option.any_some]

theorem rejects_congr (h : q.calls[call]? = p.calls[call]?) : q.rejects call = p.rejects call := by
  rw [rejects, rejects, h]

/-- What an event does to the calls. -/
inductive Advance (p : ControlPlane) (now : Timestamp) (event : Event) (q : ControlPlane) : Prop
  /-- A call is made. -/
  | make {command : Command} (hevent : event = .make command)
      (hcalls : q.calls = p.calls ++ [⟨command, .made⟩])
  /-- No call goes on. -/
  | stay {turn : Nat} (hevent : event = .handOver turn) (hcalls : q.calls = p.calls)
  /-- A call goes on, and is not rejected. -/
  | proceed {call : CallId} {command : Command} {phase later : Phase}
      (hevent : event.subject p.calls.length = some call)
      (hcall : p.calls[call]? = some ⟨command, phase⟩)
      (hcalls : q.calls = (p.setPhase call later).calls) (hphase : phase.isRejected = false)
      (hmade : later ≠ .made) (hlater : later.isRejected = false)
  /-- A call runs and is rejected, which is told in the log. -/
  | reject {call : CallId} {command : Command} {rejection : Rejection} {line : Log.Line}
      {result : CommandResult} (hevent : event = .run call)
      (hcall : p.calls[call]? = some ⟨command, .made⟩) (herror : result.error = some rejection)
      (hq : q = { p.setPhase call (.answered result) with
        journal := p.journal ++ [.applied call command.rule p.snapshot now (.rejected rejection),
          .logged line, .answered call result] })

theorem Step.advance (hstep : Step p now event q) : Advance p now event q := by
  cases hstep with
  | make command => exact .make rfl rfl
  | @reject call command rejection result hcall hrule hresult =>
    obtain ⟨line, hnotes⟩ : ∃ line, p.commitNotes now call command.rule =
        [.applied call command.rule p.snapshot now (.rejected rejection), .logged line] :=
      ⟨_, by rw [commitNotes, hrule]; rfl⟩
    exact .reject rfl hcall (congrArg CommandResult.error hresult) (by rw [hnotes]; rfl)
  | report hcall hrule hnext hsignal hresult =>
    subst hresult
    exact .proceed rfl hcall rfl rfl (by simp) rfl
  | fail hcall hresult | deliver hcall hfinal hresult | complete hcall hfinal hnext hresult =>
    subst hresult
    exact .proceed rfl hcall rfl rfl (by simp) rfl
  | enter hcall | queue hcall | wake hcall | withdraw hcall | miss hcall | leave hcall
    | interrupt hcall => exact .proceed rfl hcall rfl rfl (by simp) rfl
  | handOver => exact .stay rfl rfl

/-- A call that an event is not about stays where it is. -/
theorem Advance.getElem?_calls (h : Advance p now event q)
    (hother : event.subject p.calls.length ≠ some call) : q.calls[call]? = p.calls[call]? := by
  cases h with
  | @make command hevent hcalls =>
    subst hevent
    have hne : p.calls.length ≠ call := mt (congrArg some) hother
    rw [hcalls]
    rcases Nat.lt_or_gt_of_ne hne with hgt | hlt
    · rw [List.getElem?_eq_none hgt.le, List.getElem?_eq_none]
      simpa using Nat.succ_le_of_lt hgt
    · rw [List.getElem?_append_left hlt]
  | stay hevent hcalls => rw [hcalls]
  | @proceed subject command phase later hevent hcall hcalls hundone hmade hlater =>
    rw [hevent] at hother
    rw [hcalls, getElem?_setPhase, if_neg (mt (congrArg some) hother)]
  | @reject subject command rejection line result hevent hcall herror hq =>
    subst hevent hq
    exact (getElem?_setPhase ..).trans (if_neg (mt (congrArg some) hother))

/-- A call that has run was rejected then or never. -/
theorem Advance.rejects_eq (h : Advance p now event q) {c : Call} (hcall : p.calls[call]? = some c)
    (hphase : c.phase ≠ .made) :
    q.rejects call = p.rejects call ∧ ∃ c', q.calls[call]? = some c' ∧ c'.phase ≠ .made := by
  by_cases hsubject : event.subject p.calls.length = some call
  · cases h with
    | make hevent hcalls =>
      -- the call that is made was not there before
      subst hevent
      obtain rfl := Option.some.inj hsubject
      rw [List.getElem?_eq_none (Nat.le_refl _)] at hcall
      cases hcall
    | stay hevent hcalls =>
      subst hevent
      cases hsubject
    | @proceed other command phase later hevent hother hcalls hundone hmade hlater =>
      obtain rfl := Option.some.inj (hevent.symm.trans hsubject)
      have hnext : q.calls[other]? = some ⟨command, later⟩ := hcalls ▸ getElem?_setPhase_self hother
      refine ⟨?_, _, hnext, hmade⟩
      rw [rejects_of_getElem? hnext, rejects_of_getElem? hother, hlater, hundone]
    | reject hevent hother herror hq =>
      subst hevent
      obtain rfl := Option.some.inj hsubject
      obtain rfl := Option.some.inj (hother.symm.trans hcall)
      exact absurd rfl hphase
  · have hstays := h.getElem?_calls hsubject
    exact ⟨rejects_congr hstays, c, hstays.trans hcall, hphase⟩

/-- A call that has run at some moment of a run is rejected at its end if it is rejected then. -/
theorem rejects_of_runAll (h : p.runAll events = some final) {c : Call} (hcall : p.calls[call]? = some c)
    (hphase : c.phase ≠ .made) : final.rejects call = p.rejects call := by
  -- each event keeps the verdict on a call that has run, so the induction is on the events to come
  induction events generalizing p c with
  | nil => rw [Option.some.inj h]
  | cons timed events ih =>
    obtain ⟨now, event⟩ := timed
    rw [runAll_cons, Option.bind_eq_some_iff] at h
    obtain ⟨q, hstep, hrest⟩ := h
    obtain ⟨hsame, c', hcall', hphase'⟩ := (step_eq_some hstep).advance.rejects_eq hcall hphase
    exact (ih hrest hcall' hphase').trans hsame

/-- Only its own rejection makes a call a rejected one. -/
theorem Advance.eq_reject (h : Advance p now event q) (hp : p.rejects call = false)
    (hq : q.rejects call = true) :
    event = .run call ∧ q.snapshot = p.snapshot ∧ q.turns = p.turns ∧
      q.journal.audit = p.journal.audit ∧ q.journal.signals = p.journal.signals := by
  have hsubject : event.subject p.calls.length = some call := by
    by_contra hother
    rw [rejects_congr (h.getElem?_calls hother), hp] at hq
    cases hq
  cases h with
  | make hevent hcalls =>
    subst hevent
    obtain rfl := Option.some.inj hsubject
    rw [rejects, hcalls, List.getElem?_concat_length] at hq
    cases hq
  | stay hevent hcalls =>
    subst hevent
    cases hsubject
  | proceed hevent hother hcalls hundone hmade hlater =>
    obtain rfl := Option.some.inj (hevent.symm.trans hsubject)
    rw [rejects_of_getElem? (hcalls ▸ getElem?_setPhase_self hother), hlater] at hq
    cases hq
  | reject hevent hother herror hq =>
    subst hevent hq
    obtain rfl := Option.some.inj hsubject
    exact ⟨rfl, rfl, rfl, by simp [audit], by simp [signals]⟩

/-- A rejected call was rejected when it ran. -/
theorem exists_rejection (h : p.runAll events = some final) (hp : p.rejects call = false)
    (hfinal : final.rejects call = true) :
    ∃ before now after q r, events = before ++ (now, .run call) :: after ∧
      p.runAll before = some q ∧ q.step now (.run call) = some r ∧
      r.snapshot = q.snapshot ∧ r.turns = q.turns ∧ r.journal.audit = q.journal.audit ∧
      r.journal.signals = q.journal.signals := by
  induction events generalizing p with
  | nil =>
    rw [← Option.some.inj h, hp] at hfinal
    cases hfinal
  | cons timed events ih =>
    obtain ⟨now, event⟩ := timed
    rw [runAll_cons, Option.bind_eq_some_iff] at h
    obtain ⟨next, hstep, hrest⟩ := h
    cases hnext : next.rejects call with
    | true =>
      obtain ⟨rfl, hkept⟩ := (step_eq_some hstep).advance.eq_reject hp hnext
      exact ⟨[], now, events, p, next, rfl, rfl, hstep, hkept⟩
    | false =>
      obtain ⟨before, time, after, q, r, rfl, hbefore, hr⟩ := ih hrest hnext
      refine ⟨(now, event) :: before, time, after, q, r, rfl, ?_, hr⟩
      rw [runAll_cons, hstep]
      exact hbefore

end ControlPlane

/-! ### Runs without some of their calls -/

variable {dropped : CallId → Bool} {call : CallId}

/-- The number of a call if some calls are not made: it counts the others before it. -/
def renumber (dropped : CallId → Bool) (call : CallId) : CallId :=
  Nat.count (dropped · = false) call

theorem renumber_succ_of_dropped (h : dropped call = true) :
    renumber dropped (call + 1) = renumber dropped call := by
  rw [renumber, Nat.count_succ, if_neg (by simp [h])]
  rfl

theorem renumber_succ (h : dropped call = false) :
    renumber dropped (call + 1) = renumber dropped call + 1 := by
  rw [renumber, Nat.count_succ, if_pos h]
  rfl

/-- Calls that are made have different numbers. -/
theorem renumber_inj {other : CallId} (h : dropped call = false) (hother : dropped other = false) :
    renumber dropped call = renumber dropped other ↔ call = other :=
  ⟨fun heq => Nat.count_injective h hother heq, congrArg _⟩

/-- A call that is made has a number below those of the calls after it. -/
theorem renumber_lt {bound : Nat} (h : dropped call = false) (hlt : call < bound) :
    renumber dropped call < renumber dropped bound :=
  Nat.count_strict_mono h hlt

/-- The snapshot to which an outcome leads, if it is another one. -/
def Outcome.next? : Outcome → Option Snapshot
  | .moved next => some next
  | _ => none

namespace Note

/-- Whether an entry tells of a line of the log. -/
def isLogged : Note → Bool
  | .logged _ => true
  | _ => false

/-- An entry about a call under another number. -/
def renumber (number : CallId → CallId) : Note → Note
  | .called call command => .called (number call) command
  | .applied call rule before now outcome => .applied (number call) rule before now outcome
  | .began call signal => .began (number call) signal
  | .ended call failure => .ended (number call) failure
  | .cancelled call => .cancelled (number call)
  | .answered call result => .answered (number call) result
  | .logged line => .logged line
  | .audited event => .audited event

theorem isLogged_of_call? {note : Note} (h : note.call? = some call) : note.isLogged = false := by
  cases note with
  | logged line => cases h
  | _ => rfl

end Note

namespace Journal

/-- What is told beside the log. -/
def unlogged (journal : Journal) : Journal :=
  journal.filter (!·.isLogged)

/-- What is told beside the log of the calls that are made. -/
def without (dropped : CallId → Bool) (journal : Journal) : Journal :=
  ((journal.unlogged).filter fun note => !note.call?.any dropped).map (·.renumber (renumber dropped))

/-- The snapshots that were committed. -/
def snapshots (journal : Journal) : List Snapshot :=
  journal.filterMap fun
    | .applied _ _ _ _ outcome => outcome.next?
    | _ => none

end Journal

/-- An event under the new number of its call. -/
def Event.renumber (number : CallId → CallId) : Event → Event
  | .make command => .make command
  | .run call => .run (number call)
  | .wake call => .wake (number call)
  | .finish call failure => .finish (number call) failure
  | .cancel call => .cancel (number call)
  | .handOver turn => .handOver turn

/-- An event in a run in which some calls are not made.  The number of calls made before it is given. -/
def Event.without (dropped : CallId → Bool) (made : Nat) (event : Event) : Option Event :=
  if (event.subject made).any dropped then none else some (event.renumber (Cutover.renumber dropped))

/-- The number of calls made after an event. -/
def Event.madeAfter (made : Nat) : Event → Nat
  | .make _ => made + 1
  | _ => made

/-- The events of a run in which some calls are not made. -/
def withoutCalls (dropped : CallId → Bool) : Nat → List ControlPlane.Timed → List ControlPlane.Timed
  | _, [] => []
  | made, (now, event) :: events =>
    ((event.without dropped made).map (now, ·)).toList ++ withoutCalls dropped (event.madeAfter made) events

namespace Journal

variable {a b notes : Journal}

theorem unlogged_append : unlogged (a ++ b) = unlogged a ++ unlogged b :=
  List.filter_append ..

theorem without_append : without dropped (a ++ b) = without dropped a ++ without dropped b := by
  rw [without, unlogged_append, List.filter_append, List.map_append]
  rfl

/-- An entry about a call that is not made is left out. -/
theorem without_cons_of_dropped {note : Note} (hnote : note.call? = some call)
    (hcall : dropped call = true) : without dropped (note :: notes) = notes.without dropped := by
  rw [without, unlogged, List.filter_cons_of_pos (by simp [Note.isLogged_of_call? hnote]),
    List.filter_cons_of_neg (by simp [hnote, hcall])]
  rfl

/-- An entry about a call that is made is told under its new number. -/
theorem without_cons {note note' : Note} {notes' : Journal} (hnote : note.call? = some call)
    (hcall : dropped call = false) (hsame : note' = note.renumber (renumber dropped))
    (hnotes : notes'.unlogged = notes.without dropped) :
    unlogged (note' :: notes') = without dropped (note :: notes) := by
  have hlogged : note'.isLogged = note.isLogged := by
    rw [hsame]
    cases note <;> rfl
  rw [Note.isLogged_of_call? hnote] at hlogged
  rw [unlogged, List.filter_cons_of_pos (by simp [hlogged]), without, unlogged,
    List.filter_cons_of_pos (by simp [Note.isLogged_of_call? hnote]),
    List.filter_cons_of_pos (by simp [hnote, hcall]), List.map_cons, hsame]
  exact congrArg _ hnotes

/-- Entries about no call are told as they are. -/
theorem Silent.without_eq (h : Silent notes) : notes.unlogged = notes.without dropped := by
  have hkept (note : Note) (hmem : note ∈ notes.unlogged) : note.call? = none :=
    h note (List.mem_of_mem_filter hmem)
  have hsame (note : Note) (hmem : note ∈ notes.unlogged) :
      note.renumber (renumber dropped) = note := by
    have hnote := hkept note hmem
    cases note <;> first | rfl | cases hnote
  rw [without, List.filter_eq_self.mpr fun note hmem => by simp [hkept note hmem], List.map_congr_left hsame,
    List.map_id']

end Journal

namespace ControlPlane

/-- A control plane has come as far as another one, but without some of its calls. -/
structure Reduced (dropped : CallId → Bool) (p r : ControlPlane) : Prop where
  snapshot : r.snapshot = p.snapshot
  length : r.calls.length = renumber dropped p.calls.length
  calls : ∀ call, dropped call = false → r.calls[renumber dropped call]? = p.calls[call]?
  turns : r.turns = p.turns.map fun t => { t with call := renumber dropped t.call }
  journal : r.journal.unlogged = p.journal.without dropped

namespace Reduced

variable {p r : ControlPlane} {now : Timestamp} {command : Command} {turn : Nat} {accepted : Snapshot}
  {signal : Signal}

theorem hasCome (h : Reduced dropped p r) : r.hasCome turn = p.hasCome turn := by
  cases turn with
  | zero => rfl
  | succ earlier =>
    rw [ControlPlane.hasCome, ControlPlane.hasCome, h.turns, List.getElem?_map]
    cases p.turns[earlier]? <;> rfl

theorem note {notes notes' : Journal} (h : Reduced dropped p r)
    (hnotes : notes'.unlogged = notes.without dropped) :
    Reduced dropped (p.note notes) (r.note notes') where
  snapshot := h.snapshot
  length := h.length
  calls := h.calls
  turns := h.turns
  journal := by
    rw [ControlPlane.note, ControlPlane.note, unlogged_append, without_append, h.journal, hnotes]

theorem setPhase {phase : Phase} (h : Reduced dropped p r) (hcall : dropped call = false) :
    Reduced dropped (p.setPhase call phase) (r.setPhase (renumber dropped call) phase) where
  snapshot := h.snapshot
  length := by
    simp only [ControlPlane.setPhase, List.length_modify]
    exact h.length
  calls other hother := by
    rw [getElem?_setPhase, getElem?_setPhase, h.calls other hother]
    exact if_congr (renumber_inj hcall hother) rfl rfl
  turns := h.turns
  journal := h.journal

theorem setTurn {status : TurnStatus} (h : Reduced dropped p r) :
    Reduced dropped (p.setTurn turn status) (r.setTurn turn status) where
  snapshot := h.snapshot
  length := h.length
  calls := h.calls
  turns := by
    apply List.ext_getElem?
    intro other
    rw [getElem?_setTurn, List.getElem?_map, getElem?_setTurn, h.turns, List.getElem?_map]
    split_ifs
    · cases p.turns[other]? <;> rfl
    · rfl
  journal := h.journal

/-- A rule is applied to the same snapshot, so it gives the same. -/
theorem commit {rule : Rule} (h : Reduced dropped p r) (hcall : dropped call = false) :
    (r.commit now (renumber dropped call) rule).2 = (p.commit now call rule).2 ∧
      Reduced dropped (p.commit now call rule).1 (r.commit now (renumber dropped call) rule).1 := by
  unfold ControlPlane.commit
  dsimp only
  rw [h.snapshot]
  generalize rule.apply p.snapshot now = outcome
  have hnotes : unlogged (.applied (renumber dropped call) rule p.snapshot now outcome ::
        outcomeNotes rule p.snapshot outcome) =
      without dropped (.applied call rule p.snapshot now outcome ::
        outcomeNotes rule p.snapshot outcome) :=
    without_cons rfl hcall rfl (silent_outcomeNotes _ _ _).without_eq
  exact ⟨rfl, rfl, h.length, h.calls, h.turns, (h.note hnotes).journal⟩

theorem answer {result : CommandResult} (h : Reduced dropped p r) (hcall : dropped call = false) :
    Reduced dropped (p.answer call result) (r.answer (renumber dropped call) result) :=
  (h.setPhase hcall).note (without_cons rfl hcall rfl rfl)

theorem beginSignal (h : Reduced dropped p r) (hcall : dropped call = false) :
    Reduced dropped (p.beginSignal call turn accepted signal)
      (r.beginSignal (renumber dropped call) turn accepted signal) :=
  (h.setPhase hcall).note (without_cons rfl hcall rfl rfl)

theorem takeTurn (h : Reduced dropped p r) (hcall : dropped call = false) :
    Reduced dropped (p.takeTurn call signal) (r.takeTurn (renumber dropped call) signal) := by
  obtain ⟨snapshot, calls, turns, journal⟩ := r
  obtain rfl : snapshot = p.snapshot := h.snapshot
  -- the turn is the last one in both queues, and what is before it is the same
  have hturn : Reduced dropped { p with turns := p.turns ++ [⟨call, signal, .held⟩] }
      ⟨p.snapshot, calls, turns ++ [⟨renumber dropped call, signal, .held⟩], journal⟩ :=
    { h with turns := by rw [List.map_append, ← h.turns]; rfl }
  have hlength : turns.length = p.turns.length :=
    (congrArg List.length h.turns).trans (List.length_map _)
  unfold ControlPlane.takeTurn
  dsimp only
  rw [hturn.hasCome, hlength]
  split_ifs
  · exact hturn.beginSignal hcall
  · exact hturn.setPhase hcall

theorem runCall (h : Reduced dropped p r) (hcall : dropped call = false) :
    Reduced dropped (p.runCall now call command) (r.runCall now (renumber dropped call) command) := by
  -- both runs branch on the outcome of the rule and on the snapshot after it, which are the same
  obtain ⟨houtcome, hcommit⟩ := @commit _ _ _ _ now command.rule h hcall
  unfold ControlPlane.runCall
  dsimp only
  rw [houtcome, hcommit.snapshot]
  cases (p.commit now call command.rule).2.rejection? with
  | some rejection => exact hcommit.answer hcall
  | none =>
    cases command.signal? (p.commit now call command.rule).1.snapshot with
    | some signal => exact hcommit.takeTurn hcall
    | none => exact (hcommit.note (silent_reportNotes _ _ _).without_eq).answer hcall

theorem finishSignal {failure : Option String} (h : Reduced dropped p r) (hcall : dropped call = false) :
    Reduced dropped (p.finishSignal now call command turn accepted failure)
      (r.finishSignal now (renumber dropped call) command turn accepted failure) := by
  have hended : Reduced dropped (p.note [.ended call failure])
      (r.note [.ended (renumber dropped call) failure]) := h.note (without_cons rfl hcall rfl rfl)
  unfold ControlPlane.finishSignal
  cases failure with
  | some cause =>
    dsimp only
    rw [hended.snapshot]
    exact ((hended.note rfl).setTurn).answer hcall
  | none =>
    dsimp only
    obtain ⟨houtcome, hcommit⟩ := @commit _ _ _ _ now .completeFinalize hended.setTurn hcall
    split_ifs
    · rw [houtcome, hcommit.snapshot]
      exact hcommit.answer hcall
    · exact hended.setTurn.answer hcall

theorem cancelCall {phase : Phase} {q : ControlPlane} (h : Reduced dropped p r)
    (hcall : dropped call = false) (hq : p.cancelCall call phase = some q) :
    ∃ q', r.cancelCall (renumber dropped call) phase = some q' ∧ Reduced dropped q q' := by
  cases phase with
  | made =>
    obtain rfl := Option.some.inj hq
    exact ⟨_, rfl, (h.setPhase hcall).note (without_cons rfl hcall rfl rfl)⟩
  | waiting turn accepted =>
    obtain rfl := Option.some.inj hq
    refine ⟨_, rfl, ?_⟩
    rw [h.hasCome]
    exact (h.setTurn.setPhase hcall).note (without_cons rfl hcall rfl rfl)
  | signalling turn accepted =>
    obtain rfl := Option.some.inj hq
    exact ⟨_, rfl, (h.setTurn.setPhase hcall).note (without_cons rfl hcall rfl rfl)⟩
  | answered result => cases hq
  | cancelled => cases hq

/-- A call that is made in both runs. -/
theorem make (h : Reduced dropped p r) (hcall : dropped p.calls.length = false) :
    Reduced dropped
      (ControlPlane.note { p with calls := p.calls ++ [⟨command, .made⟩] } [.called p.calls.length command])
      (ControlPlane.note { r with calls := r.calls ++ [⟨command, .made⟩] }
        [.called r.calls.length command]) := by
  have hcalls : Reduced dropped { p with calls := p.calls ++ [⟨command, .made⟩] }
      { r with calls := r.calls ++ [⟨command, .made⟩] } :=
    { h with
      length := by
        rw [List.length_append, List.length_append, h.length]
        exact (renumber_succ hcall).symm
      calls := by
        intro other hother
        rcases Nat.lt_trichotomy other p.calls.length with hlt | rfl | hgt
        · have hlt' := renumber_lt hother hlt
          rw [List.getElem?_append_left hlt, List.getElem?_append_left (h.length ▸ hlt'),
            h.calls other hother]
        · rw [← h.length, List.getElem?_concat_length, List.getElem?_concat_length]
        · have hgt' := renumber_lt hcall hgt
          rw [List.getElem?_eq_none, List.getElem?_eq_none]
          · simpa using Nat.succ_le_of_lt hgt
          · simpa [h.length] using Nat.succ_le_of_lt hgt' }
  exact hcalls.note (without_cons rfl hcall (by rw [h.length]; rfl) rfl)

/-- An event that is about no call that is left out happens in both runs. -/
theorem step {event event' : Event} {q : ControlPlane} (h : Reduced dropped p r)
    (hstep : p.step now event = some q) (hevent : event.without dropped p.calls.length = some event') :
    ∃ q', r.step now event' = some q' ∧ Reduced dropped q q' := by
  rw [Event.without, Option.ite_none_left_eq_some, Bool.not_eq_true, Option.some_inj] at hevent
  obtain ⟨hcall, rfl⟩ := hevent
  cases event with
  | make command =>
    obtain rfl := Option.some.inj hstep
    exact ⟨_, rfl, h.make hcall⟩
  | run call =>
    simp only [ControlPlane.step, Event.renumber, h.calls call hcall] at hstep ⊢
    split at hstep
    case h_1 command hmade =>
      obtain rfl := Option.some.inj hstep
      exact ⟨_, rfl, h.runCall hcall⟩
    case h_2 => cases hstep
  | wake call =>
    simp only [ControlPlane.step, Event.renumber, h.calls call hcall] at hstep ⊢
    split at hstep
    case h_2 => cases hstep
    case h_1 command turn accepted hwaiting =>
      rw [h.turns, List.getElem?_map, h.hasCome]
      split at hstep
      case h_2 => cases hstep
      case h_1 t hturn =>
        split at hstep
        case isFalse => cases hstep
        case isTrue hcome =>
          obtain rfl := Option.some.inj hstep
          rw [hturn]
          exact ⟨_, if_pos hcome, h.beginSignal hcall⟩
  | finish call failure =>
    simp only [ControlPlane.step, Event.renumber, h.calls call hcall] at hstep ⊢
    split at hstep
    case h_1 command turn accepted hsignalling =>
      obtain rfl := Option.some.inj hstep
      exact ⟨_, rfl, h.finishSignal hcall⟩
    case h_2 => cases hstep
  | cancel call =>
    simp only [ControlPlane.step, Event.renumber, h.calls call hcall] at hstep ⊢
    split at hstep
    case h_1 c hc => exact h.cancelCall hcall hstep
    case h_2 => cases hstep
  | handOver turn =>
    simp only [ControlPlane.step, Event.renumber, h.turns, List.getElem?_map, h.hasCome] at hstep ⊢
    split at hstep
    case h_2 => cases hstep
    case h_1 t hturn =>
      split at hstep
      case isFalse => cases hstep
      case isTrue hready =>
        obtain rfl := Option.some.inj hstep
        rw [hturn]
        exact ⟨_, if_pos hready, h.setTurn⟩

/-- An event of a call that is left out changes nothing else, if the call is rejected once it has run. -/
theorem skip {event : Event} {q : ControlPlane} (h : Reduced dropped p r)
    (hstep : p.step now event = some q) (hcall : event.subject p.calls.length = some call)
    (hdropped : dropped call = true)
    (hrejected : ∀ c, q.calls[call]? = some c → c.phase ≠ .made → c.phase.isRejected = true) :
    Reduced dropped q r := by
  cases (step_eq_some hstep).advance with
  | @make command hevent hcalls =>
    subst hevent
    obtain rfl := Option.some.inj hcall
    obtain rfl := Option.some.inj hstep
    refine ⟨h.snapshot, ?_, fun other hother => ?_, h.turns, ?_⟩
    · rw [h.length]
      simp [ControlPlane.note, renumber_succ_of_dropped hdropped]
    · have hne : other ≠ p.calls.length := by
        rintro rfl
        rw [hother] at hdropped
        cases hdropped
      rw [h.calls other hother]
      simp only [ControlPlane.note, List.getElem?_append]
      split_ifs with hlt
      · rfl
      · have hle := Nat.le_of_not_lt hlt
        rw [List.getElem?_eq_none hle, List.getElem?_eq_none]
        exact Nat.sub_pos_of_lt (Nat.lt_of_le_of_ne hle hne.symm)
    · rw [h.journal, ControlPlane.note, without_append, without_cons_of_dropped rfl hdropped]
      exact (List.append_nil _).symm
  | stay hevent hcalls =>
    subst hevent
    cases hcall
  | @proceed other command phase later hevent hother hcalls hundone hmade hlater =>
    obtain rfl := Option.some.inj (hevent.symm.trans hcall)
    have hnext := hrejected _ (hcalls ▸ getElem?_setPhase_self hother) hmade
    rw [hlater] at hnext
    cases hnext
  | @reject other command rejection line result hevent hother herror hq =>
    subst hevent hq
    obtain rfl := Option.some.inj hcall
    refine ⟨h.snapshot, ?_, fun call hkept => ?_, h.turns, ?_⟩
    · rw [h.length, ControlPlane.setPhase, List.length_modify]
    · rw [h.calls call hkept, getElem?_setPhase, if_neg]
      rintro rfl
      rw [hkept] at hdropped
      cases hdropped
    · have hnotes : without dropped [.applied other command.rule p.snapshot now (.rejected rejection),
          .logged line, .answered other result] = [] := by
        simp [without, unlogged, Note.isLogged, Note.call?, hdropped]
      rw [h.journal, without_append, hnotes, List.append_nil]

end Reduced

/-- The number of calls made is counted as the events come. -/
theorem Advance.length_calls {p q : ControlPlane} {now : Timestamp} {event : Event}
    (h : Advance p now event q) : q.calls.length = event.madeAfter p.calls.length := by
  cases h with
  | make hevent hcalls =>
    rw [hevent, hcalls, List.length_append]
    rfl
  | stay hevent hcalls =>
    rw [hevent, hcalls]
    rfl
  | @proceed call command phase later hevent hcall hcalls hphase hmade hlater =>
    rw [hcalls, setPhase, List.length_modify]
    cases event with
    | make made =>
      -- the call that is made was not there before
      obtain rfl := Option.some.inj hevent
      rw [List.getElem?_eq_none (Nat.le_refl _)] at hcall
      cases hcall
    | _ => rfl
  | reject hevent hcall herror hq =>
    rw [hevent, hq]
    exact List.length_modify ..

/-- **What a run does is done without its rejected calls as well.** -/
theorem Reduced.runAll {p q r : ControlPlane} {events : List Timed} (h : Reduced dropped p r)
    (hrun : p.runAll events = some q) (hdropped : ∀ call, dropped call = true → q.rejects call = true) :
    ∃ r', r.runAll (withoutCalls dropped p.calls.length events) = some r' ∧ Reduced dropped q r' := by
  induction events generalizing p r with
  | nil => exact ⟨r, rfl, Option.some.inj hrun ▸ h⟩
  | cons timed events ih =>
    obtain ⟨now, event⟩ := timed
    rw [runAll_cons, Option.bind_eq_some_iff] at hrun
    obtain ⟨next, hstep, hrest⟩ := hrun
    have hadvance := (step_eq_some hstep).advance
    rw [withoutCalls, ← hadvance.length_calls]
    cases hevent : event.without dropped p.calls.length with
    | some event' =>
      obtain ⟨r', hr', hnext⟩ := h.step hstep hevent
      obtain ⟨final, hfinal, hreduced⟩ := ih hnext hrest
      refine ⟨final, ?_, hreduced⟩
      rw [Option.map_some, Option.toList_some, List.singleton_append, runAll_cons, hr']
      exact hfinal
    | none =>
      rw [Event.without] at hevent
      split_ifs at hevent with hsubject
      obtain ⟨call, hcall, hdrop⟩ := (Option.any_eq_true ..).mp hsubject
      -- a call that has run and is rejected at the end of the run was rejected by this event
      have hskip := h.skip hstep hcall hdrop fun c hc hphase => by
        rw [← rejects_of_getElem? hc, ← rejects_of_runAll hrest hc hphase]
        exact hdropped call hdrop
      exact ih hskip hrest

/-! ### Rejected calls -/

variable {p r : ControlPlane} {first : Snapshot} {events : List Timed}

/-- What is told in both runs is told alike, if nothing is told of the calls that are left out. -/
theorem Reduced.filterMap_journal {α : Type} {view view' : Note → Option α} (h : Reduced dropped p r)
    (hlogged : ∀ line, view (.logged line) = none)
    (hkept : ∀ note : Note, view (note.renumber (renumber dropped)) = view' note)
    (hdropped : ∀ note ∈ p.journal, note.call?.any dropped = true → view' note = none) :
    r.journal.filterMap view = p.journal.filterMap view' := by
  have hunlogged : r.journal.unlogged.filterMap view = r.journal.filterMap view := by
    rw [unlogged, List.filterMap_filter]
    refine List.filterMap_congr fun note _ => ?_
    cases note with
    | logged line => exact (hlogged line).symm
    | _ => rfl
  rw [← hunlogged, h.journal, without, List.filterMap_map, List.filterMap_filter, unlogged,
    List.filterMap_filter]
  refine List.filterMap_congr fun note hmem => ?_
  cases hdrop : note.call?.any dropped with
  | true => simp [hdropped note hmem hdrop]
  | false =>
    cases note with
    | logged line => exact (hlogged line).symm.trans (hkept (.logged line))
    | _ => exact hkept _

/-- Nothing else is told of a rejected call than that it was made, rejected and answered. -/
theorem Reachable.about_of_rejects (h : Reachable first p) (hcall : p.rejects call = true) :
    ∃ command result rejection now, p.journal.about call = [.called call command,
      .applied call command.rule result.snapshot now (.rejected rejection), .answered call result] := by
  obtain ⟨⟨command, phase⟩, hget, hphase⟩ := (Option.any_eq_true ..).mp hcall
  cases phase with
  | answered result =>
    obtain ⟨rejection, herror⟩ := Option.isSome_iff_exists.mp hphase
    obtain ⟨now, habout⟩ := (h.lives.life hget).eq_of_error herror
    exact ⟨command, result, rejection, now, habout⟩
  | _ => cases hphase

/-- What does not look at calls that are made, at rejections and at answers sees nothing of a rejected
call. -/
theorem Reachable.view_of_rejects (h : Reachable first p) {α : Type} {view : Note → Option α}
    (hcalled : ∀ call command, view (.called call command) = none)
    (happlied : ∀ call rule before now rejection,
      view (.applied call rule before now (.rejected rejection)) = none)
    (hanswered : ∀ call result, view (.answered call result) = none) :
    ∀ note ∈ p.journal, note.call?.any p.rejects = true → view note = none := by
  intro note hmem hnote
  obtain ⟨call, hcall, hrejects⟩ := (Option.any_eq_true ..).mp hnote
  obtain ⟨command, result, rejection, now, habout⟩ := h.about_of_rejects hrejects
  have htold := (mem_about hcall).mpr hmem
  simp only [habout, List.mem_cons, List.not_mem_nil, or_false] at htold
  rcases htold with rfl | rfl | rfl
  · exact hcalled _ _
  · exact happlied _ _ _ _ _
  · exact hanswered _ _

/-- **Rejected calls leave no trace**, in every run from any snapshot.  The event by which a call is
rejected keeps the snapshot, the turns, the audit trail and the signals, and the call is never signalled.
Without all rejected calls the run is a run as well.  The same snapshots are committed there, the same audit
events are written, the same signals begin with the same arguments, every other call comes to the same phase
and result, and all this happens in the same order. -/
theorem rejected_calls_leave_no_trace (h : (idle first).runAll events = some p) :
    (∀ call, p.rejects call = true →
      (∃ before now after q r, events = before ++ (now, .run call) :: after ∧
        (idle first).runAll before = some q ∧ q.step now (.run call) = some r ∧
        r.snapshot = q.snapshot ∧ r.turns = q.turns ∧ r.journal.audit = q.journal.audit ∧
        r.journal.signals = q.journal.signals) ∧
      p.journal.hasBegun call = false) ∧
    ∃ r, (idle first).runAll (withoutCalls p.rejects 0 events) = some r ∧
      r.snapshot = p.snapshot ∧ r.journal.snapshots = p.journal.snapshots ∧
      r.journal.audit = p.journal.audit ∧
      r.journal.signals = p.journal.signals.map (fun s => (renumber p.rejects s.1, s.2)) ∧
      r.calls.length = renumber p.rejects p.calls.length ∧
      (∀ call, p.rejects call = false → r.calls[renumber p.rejects call]? = p.calls[call]?) ∧
      r.journal.unlogged = p.journal.without p.rejects := by
  have hreach : Reachable first p := ⟨events, h⟩
  constructor
  · intro call hcall
    refine ⟨exists_rejection h rfl hcall, ?_⟩
    obtain ⟨command, result, rejection, now, habout⟩ := hreach.about_of_rejects hcall
    rw [← hasBegun_about, habout]
    rfl
  · have hidle : Reduced p.rejects (idle first) (idle first) := ⟨rfl, rfl, fun _ _ => rfl, rfl, rfl⟩
    obtain ⟨r, hr, hreduced⟩ := hidle.runAll h fun _ => id
    refine ⟨r, hr, hreduced.snapshot, ?_, ?_, ?_, hreduced.length, hreduced.calls, hreduced.journal⟩
    · exact hreduced.filterMap_journal (fun _ => rfl) (fun note => by cases note <;> rfl)
        (hreach.view_of_rejects (fun _ _ => rfl) (fun _ _ _ _ _ => rfl) fun _ _ => rfl)
    · exact hreduced.filterMap_journal (fun _ => rfl) (fun note => by cases note <;> rfl)
        (hreach.view_of_rejects (fun _ _ => rfl) (fun _ _ _ _ _ => rfl) fun _ _ => rfl)
    · rw [Journal.signals, Journal.signals, List.map_filterMap]
      exact hreduced.filterMap_journal (fun _ => rfl) (fun note => by cases note <;> rfl)
        (hreach.view_of_rejects (fun _ _ => rfl) (fun _ _ _ _ _ => rfl) fun _ _ => rfl)

/-- A start with a bad entry, a resume of a running migration and a finalize after a loss of history are
rejected, the last two while other calls are suspended.  The run goes on without them as it did. -/
theorem rejected_calls_leave_no_trace_of_suspended_pause :
    ∃ events, events = atOnce default
        [.make (.start [.str "db1.*", .str "a.b.c"] []), .run 0, .make (.start [.str "db1.*"] []), .run 1,
          .make .pause, .make (.resume false), .run 3, .run 2, .make .reportHistoryLost, .run 4,
          .make (.finalize false), .run 5, .finish 1 none, .wake 2, .finish 2 (some "refused")] ∧
      ∃ p, (idle (.fresh default)).runAll events = some p ∧
        (p.rejects 0 = true ∧ p.rejects 3 = true ∧ p.rejects 5 = true ∧ p.rejects 2 = false ∧
          renumber p.rejects 2 = 1 ∧
          withoutCalls p.rejects 0 events = atOnce default
            [.make (.start [.str "db1.*"] []), .run 0, .make .pause, .run 1, .make .reportHistoryLost,
              .run 2, .finish 0 none, .wake 1, .finish 1 (some "refused")]) ∧
        p.journal.hasBegun 3 = false ∧
        ∃ r, (idle (.fresh default)).runAll (atOnce default
            [.make (.start [.str "db1.*"] []), .run 0, .make .pause, .run 1, .make .reportHistoryLost,
              .run 2, .finish 0 none, .wake 1, .finish 1 (some "refused")]) = some r ∧
          r.snapshot = p.snapshot ∧ r.journal.audit = p.journal.audit ∧ r.calls[1]? = p.calls[2]? := by
  refine ⟨_, rfl, exists_run_and ?_ ⟨_, rfl, rfl, rfl, rfl, rfl, rfl, rfl⟩⟩
  rintro p hrun ⟨_, hresume, _, hpause, hnumber, hwithout⟩
  obtain ⟨hrejected, r, hr, hsnapshot, _, haudit, _, _, hcalls, _⟩ := rejected_calls_leave_no_trace hrun
  exact ⟨(hrejected 3 hresume).2, r, hwithout ▸ hr, hsnapshot, haudit, hnumber ▸ hcalls 2 hpause⟩

end ControlPlane

end Cutover
