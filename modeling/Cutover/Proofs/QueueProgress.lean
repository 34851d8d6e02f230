import Cutover.Proofs.SignalOrder
import Mathlib.Data.Nat.Find

/-!
# The queue never gets stuck

The turns that were given up come first in the queue, and no turn is given up before all turns before it
have been.  Once nothing is ready any more and no signal is in progress, every turn was given up and every
accepted command is over.  Main statement: `queue_never_stuck`.

The first turn that was not given up has come.  If it was left behind it can be given up, and if its call
waits the call can go on, so in a quiet state its signal is in progress (`Queued.isReleased_of_isQuiet`).

A control plane left to itself becomes quiet: each event that needs neither a caller nor the engine uses
up some of a finite amount of work (`Step.work_lt`, `Reachable.exists_quiet`).
-/

namespace Cutover

open Journal

/-- Whether an event happens by itself, without a caller or the engine. -/
def Event.isInternal : Event → Bool
  | .run _ => true
  | .wake _ => true
  | .handOver _ => true
  | .make _ => false
  | .finish .. => false
  | .cancel _ => false

namespace ControlPlane

variable {p q : ControlPlane} {now : Timestamp} {event : Event} {call : CallId} {turn : Nat}

/-! ### Work that is ready -/

theorem mem_readyTurns :
    turn ∈ p.readyTurns ↔
      ∃ t, p.turns[turn]? = some t ∧ t.status = .abandoned ∧ p.hasCome turn = true := by
  simp only [readyTurns, List.mem_filter, List.mem_range, Bool.and_eq_true, Option.any_eq_true,
    decide_eq_true_eq]
  constructor
  · rintro ⟨_, ⟨t, hturn, hstatus⟩, hcome⟩
    exact ⟨t, hturn, hstatus, hcome⟩
  · rintro ⟨t, hturn, hstatus, hcome⟩
    exact ⟨(List.getElem?_eq_some_iff.mp hturn).1, ⟨t, hturn, hstatus⟩, hcome⟩

theorem mem_readyCalls :
    call ∈ p.readyCalls ↔ ∃ command, p.calls[call]? = some ⟨command, .made⟩ := by
  simp only [readyCalls, List.mem_filter, List.mem_range, Option.any_eq_true]
  constructor
  · rintro ⟨_, ⟨command, phase⟩, hcall, hphase⟩
    cases phase <;> cases hphase
    exact ⟨command, hcall⟩
  · rintro ⟨command, hcall⟩
    exact ⟨(List.getElem?_eq_some_iff.mp hcall).1, _, hcall, rfl⟩

theorem mem_readySignals :
    call ∈ p.readySignals ↔ ∃ command turn accepted,
      p.calls[call]? = some ⟨command, .waiting turn accepted⟩ ∧ p.hasCome turn = true := by
  simp only [readySignals, List.mem_filter, List.mem_range, Option.any_eq_true]
  constructor
  · rintro ⟨_, ⟨command, phase⟩, hcall, hphase⟩
    cases phase with
    | waiting turn accepted => exact ⟨command, turn, accepted, hcall, hphase⟩
    | made => cases hphase
    | signalling turn accepted => cases hphase
    | answered result => cases hphase
    | cancelled => cases hphase
  · rintro ⟨command, turn, accepted, hcall, hcome⟩
    exact ⟨(List.getElem?_eq_some_iff.mp hcall).1, _, hcall, hcome⟩

theorem isQuiet_iff :
    p.isQuiet = true ↔
      (∀ turn, turn ∉ p.readyTurns) ∧ (∀ call, call ∉ p.readyCalls) ∧
        ∀ call, call ∉ p.readySignals := by
  simp only [isQuiet, Bool.and_eq_true, List.isEmpty_iff, List.eq_nil_iff_forall_not_mem, and_assoc]

/-- A control plane is quiet when no event can happen by itself. -/
theorem Queued.isQuiet_iff_step_eq_none (hp : p.Queued) :
    p.isQuiet = true ↔ ∀ now event, event.isInternal = true → p.step now event = none := by
  rw [isQuiet_iff]
  constructor
  · rintro ⟨hturns, hcalls, hsignals⟩ now event hinternal
    rw [Option.eq_none_iff_forall_ne_some]
    intro q hq
    cases step_eq_some hq with
    | reject hcall => exact hcalls _ (mem_readyCalls.mpr ⟨_, hcall⟩)
    | report hcall => exact hcalls _ (mem_readyCalls.mpr ⟨_, hcall⟩)
    | enter hcall => exact hcalls _ (mem_readyCalls.mpr ⟨_, hcall⟩)
    | queue hcall => exact hcalls _ (mem_readyCalls.mpr ⟨_, hcall⟩)
    | wake hcall hturn hcome => exact hsignals _ (mem_readySignals.mpr ⟨_, _, _, hcall, hcome⟩)
    | handOver hturn hstatus hcome => exact hturns _ (mem_readyTurns.mpr ⟨_, hturn, hstatus, hcome⟩)
    | make | fail | deliver | complete | withdraw | miss | leave | interrupt => cases hinternal
  · intro h
    refine ⟨fun turn hmem => ?_, fun call hmem => ?_, fun call hmem => ?_⟩
    · obtain ⟨t, hturn, hstatus, hcome⟩ := mem_readyTurns.mp hmem
      have hnone := h default (.handOver turn) rfl
      simp [step, hturn, hstatus, hcome] at hnone
    · obtain ⟨command, hcall⟩ := mem_readyCalls.mp hmem
      have hnone := h default (.run call) rfl
      simp [step, hcall] at hnone
    · obtain ⟨command, turn, accepted, hcall, hcome⟩ := mem_readySignals.mp hmem
      obtain ⟨signal, hturn, _⟩ := hp.holds hcall rfl
      have hnone := h default (.wake call) rfl
      simp [step, hcall, hturn, hcome] at hnone

/-! ### No turn is passed over -/

/-- The turns that were given up come first. -/
theorem Queued.isReleased_iff_lt (hp : p.Queued) : ∃ n, ∀ turn, p.IsReleased turn ↔ turn < n := by
  by_cases hall : ∀ turn < p.turns.length, p.IsReleased turn
  · exact ⟨p.turns.length, fun turn => ⟨IsReleased.lt, hall turn⟩⟩
  · -- otherwise the first turn that was not given up divides the queue
    have hsome : ∃ turn, ¬ p.IsReleased turn := by
      push Not at hall
      obtain ⟨turn, _, hturn⟩ := hall
      exact ⟨turn, hturn⟩
    classical
    refine ⟨Nat.find hsome, fun turn => ⟨fun hreleased => ?_, fun hlt => ?_⟩⟩
    · by_contra hge
      exact Nat.find_spec hsome (hp.released (Nat.le_of_not_lt hge) hreleased)
    · exact not_not.mp (Nat.find_min hsome hlt)

/-- A turn is given up only after all turns before it. -/
theorem Step.isReleased_of_lt (hstep : Step p now event q) (hp : p.Queued)
    (hafter : q.IsReleased turn) (hbefore : ¬ p.IsReleased turn) {earlier : Nat}
    (hlt : earlier < turn) : p.IsReleased earlier := by
  rcases (hstep.move hp).hasCome_of_isReleased hafter with hreleased | hcome
  · exact absurd hreleased hbefore
  · exact hp.hasCome_iff.mp hcome earlier hlt

/-- Once nothing is ready and no signal is in progress, every turn was given up. -/
theorem Queued.isReleased_of_isQuiet (hp : p.Queued) (hquiet : p.isQuiet = true)
    (hidle : ∀ (call : CallId) (command : Command) (turn : Nat) (accepted : Snapshot),
      p.calls[call]? ≠ some ⟨command, .signalling turn accepted⟩)
    (hlt : turn < p.turns.length) : p.IsReleased turn := by
  obtain ⟨hturns, _, hsignals⟩ := isQuiet_iff.mp hquiet
  -- by induction along the queue: if the turns before were given up, this one has come
  induction turn using Nat.strongRecOn with
  | ind turn ih =>
    have hcome : p.hasCome turn = true :=
      hp.hasCome_iff.mpr fun earlier hearlier => ih earlier hearlier (Nat.lt_trans hearlier hlt)
    have hturn : p.turns[turn]? = some p.turns[turn] := List.getElem?_eq_getElem hlt
    obtain ⟨command, phase, hcall, hheld, _⟩ := hp.held hturn
    cases hstatus : p.turns[turn].status with
    | released => exact ⟨_, hturn, hstatus⟩
    | abandoned => exact absurd (mem_readyTurns.mpr ⟨_, hturn, hstatus, hcome⟩) (hturns turn)
    | held =>
      obtain ⟨accepted, hplace⟩ := hheld hstatus
      cases phase with
      | waiting other accepted' =>
        obtain ⟨rfl, rfl⟩ := Prod.mk.inj (Option.some.inj hplace)
        exact absurd (mem_readySignals.mpr ⟨_, _, _, hcall, hcome⟩) (hsignals _)
      | signalling other accepted' => exact absurd hcall (hidle _ _ _ _)
      | made => cases hplace
      | answered result => cases hplace
      | cancelled => cases hplace

/-! ### Work runs out -/

end ControlPlane

/-- How many internal events a call can still lead to: it runs, and wakes once if it has to wait. -/
def Phase.work : Phase → Nat
  | .made => 2
  | .waiting .. => 1
  | .signalling .. => 0
  | .answered _ => 0
  | .cancelled => 0

/-- How many internal events a turn can still lead to: one that was left behind is given up once. -/
def TurnStatus.work : TurnStatus → Nat
  | .held => 0
  | .abandoned => 1
  | .released => 0

namespace ControlPlane

variable {p q : ControlPlane} {now : Timestamp} {event : Event} {call : CallId} {turn : Nat}

/-- The weights of a list's members taken together. -/
def total {α : Type} (weight : α → Nat) (l : List α) : Nat :=
  l.foldr (fun a n => weight a + n) 0

/-- A bound on the internal events that can happen before a caller or the engine acts. -/
def work (p : ControlPlane) : Nat :=
  total (·.phase.work) p.calls + total (·.status.work) p.turns

section Total

variable {α : Type} (weight : α → Nat) {l : List α} {a : α}

theorem total_cons : total weight (a :: l) = weight a + total weight l := rfl

/-- A member without weight does not count. -/
theorem total_concat (h : weight a = 0) : total weight (l ++ [a]) = total weight l := by
  rw [total, total, List.foldr_append, List.foldr_cons, h]
  rfl

/-- One member changes. -/
theorem total_modify {i : Nat} (f : α → α) (h : l[i]? = some a) :
    total weight (l.modify i f) + weight a = total weight l + weight (f a) := by
  induction l generalizing i with
  | nil => simp at h
  | cons b l ih =>
    cases i with
    | zero =>
      obtain rfl : b = a := by simpa using h
      rw [List.modify_zero_cons, total_cons, total_cons]
      omega
    | succ i =>
      have hrest := ih (i := i) (by simpa using h)
      rw [List.modify_succ_cons, total_cons, total_cons]
      omega

end Total

theorem work_setPhase_lt {command : Command} {phase : Phase} (later : Phase)
    (hcall : p.calls[call]? = some ⟨command, phase⟩) (hlt : later.work < phase.work) :
    (p.setPhase call later).work < p.work := by
  have hcalls := total_modify (·.phase.work) (fun c => { c with phase := later }) hcall
  have hturns : (p.setPhase call later).turns = p.turns := rfl
  rw [work, work, hturns, setPhase]
  dsimp only at hcalls ⊢
  omega

theorem work_setTurn_lt {t : Turn} {status : TurnStatus} (hturn : p.turns[turn]? = some t)
    (hlt : status.work < t.status.work) : (p.setTurn turn status).work < p.work := by
  have hturns := total_modify (·.status.work) (fun t => { t with status := status }) hturn
  have hcalls : (p.setTurn turn status).calls = p.calls := rfl
  rw [work, work, hcalls, setTurn]
  dsimp only at hturns ⊢
  omega

/-- A turn that is held costs no work. -/
theorem work_take (p : ControlPlane) {signal : Signal} (hcalls : q.calls = p.calls)
    (hturns : q.turns = p.turns ++ [⟨call, signal, .held⟩]) : q.work = p.work := by
  have htotal : total (·.status.work) q.turns = total (·.status.work) p.turns := by
    rw [hturns]
    exact total_concat _ rfl
  rw [work, work, hcalls, htotal]

/-- An internal event uses up work. -/
theorem Step.work_lt (hstep : Step p now event q) (hinternal : event.isInternal = true) :
    q.work < p.work := by
  cases hstep with
  | @reject call command rejection result hcall hrule hresult =>
    exact work_setPhase_lt (.answered result) hcall Nat.two_pos
  | @report call command next result hcall hrule hnext hsignal hresult =>
    exact work_setPhase_lt (.answered result) hcall Nat.two_pos
  | @enter call command next signal hcall hrule hnext hsignal hcome =>
    exact lt_of_eq_of_lt (work_take (p.setPhase call (.signalling p.turns.length next)) rfl rfl)
      (work_setPhase_lt _ hcall Nat.two_pos)
  | @queue call command next signal hcall hrule hnext hsignal hcome =>
    exact lt_of_eq_of_lt (work_take (p.setPhase call (.waiting p.turns.length next)) rfl rfl)
      (work_setPhase_lt _ hcall Nat.one_lt_two)
  | @wake call command turn accepted t hcall hturn hcome =>
    exact work_setPhase_lt (.signalling turn accepted) hcall Nat.one_pos
  | handOver hturn hstatus hcome =>
    exact work_setTurn_lt hturn (hstatus ▸ Nat.one_pos)
  | make | fail | deliver | complete | withdraw | miss | leave | interrupt => cases hinternal

theorem Reachable.step {first : Snapshot} (h : Reachable first p) (hstep : p.step now event = some q) :
    Reachable first q := by
  obtain ⟨events, hrun⟩ := h
  refine ⟨events ++ [(now, event)], ?_⟩
  rw [runAll_concat, hrun]
  exact hstep

/-- A control plane left to itself becomes quiet. -/
theorem Reachable.exists_quiet {first : Snapshot} (h : Reachable first p) :
    ∃ events q, (∀ e ∈ events, e.2.isInternal = true) ∧ p.runAll events = some q ∧
      q.isQuiet = true := by
  -- by induction on the work that is left
  generalize hwork : p.work = work
  induction work using Nat.strongRecOn generalizing p with
  | ind work ih =>
    by_cases hquiet : p.isQuiet = true
    · exact ⟨[], p, by simp, rfl, hquiet⟩
    · rw [h.queued.isQuiet_iff_step_eq_none] at hquiet
      push Not at hquiet
      obtain ⟨now, event, hinternal, hsome⟩ := hquiet
      obtain ⟨q, hq⟩ := Option.ne_none_iff_exists'.mp hsome
      have hless : q.work < work := hwork ▸ (step_eq_some hq).work_lt hinternal
      obtain ⟨events, r, hevents, hrun, hend⟩ := ih q.work hless (h.step hq) rfl
      refine ⟨(now, event) :: events, r, List.forall_mem_cons.mpr ⟨hinternal, hevents⟩, ?_, hend⟩
      rw [runAll_cons, hq]
      exact hrun

/-- **The queue never gets stuck**, in any run from any snapshot.  The turns stand in the order in which
the commands were accepted; those that were given up come first, and none is given up before all turns
before it.  When no event can happen by itself any more and no signal is in progress, every turn was given
up, every accepted command is over and no call waits. -/
theorem queue_never_stuck {first : Snapshot} (h : Reachable first p) :
    p.journal.commits = p.line ∧
    (∃ n, ∀ turn, p.IsReleased turn ↔ turn < n) ∧
    (∀ now event q, p.step now event = some q → ∀ turn, q.IsReleased turn → ¬ p.IsReleased turn →
      ∀ earlier < turn, p.IsReleased earlier) ∧
    (p.isQuiet = true ↔ ∀ now event, event.isInternal = true → p.step now event = none) ∧
    (p.isQuiet = true → (∀ call, p.journal.isInProgress call = false) →
      (∀ turn < p.turns.length, p.IsReleased turn) ∧
      (∀ e ∈ p.journal.commits, p.journal.isOver e.1 = true) ∧
      ∀ (call : CallId) (command : Command) (turn : Nat) (accepted : Snapshot),
        p.calls[call]? ≠ some ⟨command, .waiting turn accepted⟩) := by
  have hqueued := h.queued
  have hlives := h.lives
  have hordered := h.ordered
  refine ⟨hordered.commits, hqueued.isReleased_iff_lt, ?_, hqueued.isQuiet_iff_step_eq_none, ?_⟩
  · intro now event q hstep turn hafter hbefore earlier hlt
    exact (step_eq_some hstep).isReleased_of_lt hqueued hafter hbefore hlt
  · intro hquiet hidle
    have hnone (call : CallId) (command : Command) (turn : Nat) (accepted : Snapshot) :
        p.calls[call]? ≠ some ⟨command, .signalling turn accepted⟩ := by
      intro hcall
      have hprogress := hlives.isInProgress_iff.mpr ⟨command, turn, accepted, hcall⟩
      rw [hidle call] at hprogress
      cases hprogress
    have hreleased (turn : Nat) (hlt : turn < p.turns.length) : p.IsReleased turn :=
      hqueued.isReleased_of_isQuiet hquiet hnone hlt
    refine ⟨hreleased, ?_, ?_⟩
    · intro e he
      rw [hordered.commits] at he
      obtain ⟨t, ht, rfl⟩ := List.mem_map.mp he
      obtain ⟨turn, hturn⟩ := List.mem_iff_getElem?.mp ht
      exact hordered.isOver_of_isReleased hqueued hlives hturn
        (hreleased turn (List.getElem?_eq_some_iff.mp hturn).1)
    · -- a call that waits would hold a turn that was given up
      intro call command turn accepted hcall
      obtain ⟨signal, hturn, _⟩ := hqueued.holds hcall rfl
      obtain ⟨t, ht, hstatus⟩ := hreleased turn (List.getElem?_eq_some_iff.mp hturn).1
      rw [hturn, Option.some.injEq] at ht
      subst ht
      cases hstatus

/-- Two calls that follow one another in the queue are cancelled, the later one first, while a signal is
in progress, which is then cancelled itself.  Their turns are given up one after the other. -/
theorem queue_never_stuck_past_cancelled_waiters :
    ∃ p, (idle (.fresh default)).runAll (atOnce default
        [.make (.start [] []), .run 0, .make .pause, .run 1, .make (.resume false), .run 2,
          .make (.finalize false), .run 3, .cancel 2, .cancel 1, .cancel 0, .handOver 1,
          .handOver 2, .wake 3, .finish 3 (some "refused")]) = some p ∧
      (p.isQuiet = true ∧ p.turns.map (·.status) = [.released, .released, .released, .released]) ∧
      ∃ n, ∀ turn, p.IsReleased turn ↔ turn < n :=
  exists_run_and (fun _ hrun _ => (queue_never_stuck ⟨_, hrun⟩).2.1) ⟨_, rfl, rfl, rfl⟩

end ControlPlane

end Cutover
