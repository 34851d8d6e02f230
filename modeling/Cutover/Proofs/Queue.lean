import Cutover.Proofs.Step

/-!
# The queue of signals

A control plane links calls and turns in two directions, and `Queued` says that the two fit: a call that
waits or whose signal is in progress holds the turn that it names (`holds`), and a turn that is held is
that of such a call, while the call of any other turn is done (`held`).  The turns that were given up
come first (`released`), so the queue has three parts: turns given up, one turn that has come, and turns
that have not.

Of an event the queue sees only what `Move` keeps: a call joins, leaves or goes on to its signal, or a
turn that was left behind is given up.  A turn that was given up stays so (`Move.isReleased`), and none is
given up before it has come (`Move.hasCome_of_isReleased`); `Queued` follows in every state that can be
reached (`Reachable.queued`).
-/

namespace Cutover

namespace Phase

/-- The turn that a call holds, and the snapshot to which its command has led. -/
def place? : Phase → Option (Nat × Snapshot)
  | .waiting turn accepted => some (turn, accepted)
  | .signalling turn accepted => some (turn, accepted)
  | .made => none
  | .answered _ => none
  | .cancelled => none

/-- Whether nothing happens to a call any more. -/
def isDone : Phase → Bool
  | .answered _ => true
  | .cancelled => true
  | .made => false
  | .waiting .. => false
  | .signalling .. => false

theorem place?_of_isDone {phase : Phase} (h : phase.isDone = true) : phase.place? = none := by
  cases phase <;> simp_all [isDone, place?]

end Phase

namespace ControlPlane

variable {p q : ControlPlane} {now : Timestamp} {event : Event} {call : CallId} {command : Command}
  {turn : Nat} {accepted : Snapshot}

/-! ### Turns that have come and turns that were given up -/

/-- A turn was given up. -/
def IsReleased (p : ControlPlane) (turn : Nat) : Prop :=
  ∃ t, p.turns[turn]? = some t ∧ t.status = .released

theorem hasCome_zero : p.hasCome 0 = true := rfl

theorem hasCome_succ : p.hasCome (turn + 1) = true ↔ p.IsReleased turn := by
  rw [hasCome, Option.any_eq_true]
  simp [IsReleased]

theorem IsReleased.lt (h : p.IsReleased turn) : turn < p.turns.length := by
  obtain ⟨t, ht, _⟩ := h
  exact (List.getElem?_eq_some_iff.mp ht).1

theorem getElem?_setTurn (p : ControlPlane) (turn other : Nat) (status : TurnStatus) :
    (p.setTurn turn status).turns[other]? =
      if turn = other then p.turns[other]?.map fun t => { t with status := status }
      else p.turns[other]? := by
  rw [setTurn, List.getElem?_modify]
  split_ifs with h <;> simp

theorem getElem?_setPhase (p : ControlPlane) (call other : CallId) (phase : Phase) :
    (p.setPhase call phase).calls[other]? =
      if call = other then p.calls[other]?.map fun c => { c with phase := phase }
      else p.calls[other]? := by
  rw [setPhase, List.getElem?_modify]
  split_ifs with h <;> simp

/-- A call that is put into a phase is found there. -/
theorem getElem?_setPhase_self {phase later : Phase} (hcall : p.calls[call]? = some ⟨command, phase⟩) :
    (p.setPhase call later).calls[call]? = some ⟨command, later⟩ := by
  rw [getElem?_setPhase, if_pos rfl, hcall]
  rfl

/-- A call after one of the calls was put into a phase. -/
theorem eq_or_of_setPhase {phase : Phase} {other : CallId} {c : Call}
    (h : (p.setPhase call phase).calls[other]? = some c) :
    (other = call ∧ c.phase = phase ∧ ∃ old, p.calls[call]? = some ⟨c.command, old⟩) ∨
      (other ≠ call ∧ p.calls[other]? = some c) := by
  rw [getElem?_setPhase] at h
  split_ifs at h with heq
  · subst heq
    obtain ⟨old, hold, rfl⟩ := Option.map_eq_some_iff.mp h
    exact Or.inl ⟨rfl, rfl, old.phase, hold⟩
  · exact Or.inr ⟨Ne.symm heq, h⟩

theorem isReleased_setTurn {other : Nat} {status : TurnStatus} :
    (p.setTurn turn status).IsReleased other ↔
      if turn = other then status = .released ∧ other < p.turns.length else p.IsReleased other := by
  simp only [IsReleased, getElem?_setTurn]
  split_ifs with h
  · constructor
    · rintro ⟨t, ht, hstatus⟩
      obtain ⟨old, hold, rfl⟩ := Option.map_eq_some_iff.mp ht
      exact ⟨hstatus, (List.getElem?_eq_some_iff.mp hold).1⟩
    · rintro ⟨rfl, hlt⟩
      rw [List.getElem?_eq_getElem hlt]
      exact ⟨_, rfl, rfl⟩
  · rfl

theorem isReleased_congr (h : q.turns = p.turns) : q.IsReleased turn ↔ p.IsReleased turn := by
  rw [IsReleased, IsReleased, h]

/-- A turn keeps its call and its signal. -/
theorem map_setTurn {α : Type} (f : CallId → Signal → α) (p : ControlPlane) (turn : Nat)
    (status : TurnStatus) :
    (p.setTurn turn status).turns.map (fun t => f t.call t.signal) =
      p.turns.map fun t => f t.call t.signal := by
  apply List.ext_getElem?
  intro other
  rw [List.getElem?_map, List.getElem?_map, getElem?_setTurn]
  split_ifs
  · cases p.turns[other]? <;> rfl
  · rfl

/-! ### What the queue sees of an event -/

/-- What an event does to the calls and turns. -/
inductive Move (p q : ControlPlane) : Prop
  /-- A call is made. -/
  | make (command : Command) (hcalls : q.calls = p.calls ++ [⟨command, .made⟩])
      (hturns : q.turns = p.turns)
  /-- A call is done without a turn. -/
  | pass {call : CallId} {command : Command} {later : Phase}
      (hcall : p.calls[call]? = some ⟨command, .made⟩) (hlater : later.isDone = true)
      (hcalls : q.calls = (p.setPhase call later).calls) (hturns : q.turns = p.turns)
  /-- A call takes the last turn, and goes on to its signal if the turn has come. -/
  | join {call : CallId} {command : Command} {accepted : Snapshot} {signal : Signal}
      {later : Phase} (hcall : p.calls[call]? = some ⟨command, .made⟩)
      (hlater : later = .waiting p.turns.length accepted ∨
        later = .signalling p.turns.length accepted ∧ p.hasCome p.turns.length = true)
      (hsignal : command.signal? accepted = some signal)
      (hcalls : q.calls = (p.setPhase call later).calls)
      (hturns : q.turns = p.turns ++ [⟨call, signal, .held⟩])
  /-- A waiting call goes on to its signal. -/
  | wake {call : CallId} {command : Command} {turn : Nat} {accepted : Snapshot}
      (hcall : p.calls[call]? = some ⟨command, .waiting turn accepted⟩)
      (hcome : p.hasCome turn = true)
      (hcalls : q.calls = (p.setPhase call (.signalling turn accepted)).calls)
      (hturns : q.turns = p.turns)
  /-- A call is done and gives its turn up, or leaves it behind. -/
  | leave {call : CallId} {command : Command} {turn : Nat} {accepted : Snapshot}
      {phase later : Phase} {status : TurnStatus}
      (hcall : p.calls[call]? = some ⟨command, phase⟩)
      (hplace : phase.place? = some (turn, accepted)) (hlater : later.isDone = true)
      (hstatus : status = .abandoned ∨ status = .released ∧ p.hasCome turn = true)
      (hcalls : q.calls = (p.setPhase call later).calls)
      (hturns : q.turns = (p.setTurn turn status).turns)
  /-- A turn that was left behind is given up. -/
  | handOver {turn : Nat} {t : Turn} (hturn : p.turns[turn]? = some t)
      (hstatus : t.status = .abandoned) (hcome : p.hasCome turn = true)
      (hcalls : q.calls = p.calls) (hturns : q.turns = (p.setTurn turn .released).turns)

/-- The calls and the turns fit. -/
structure Queued (p : ControlPlane) : Prop where
  /-- A call that waits or whose signal is in progress holds the turn that it names. -/
  holds : ∀ {call : CallId} {command : Command} {phase : Phase} {turn : Nat} {accepted : Snapshot},
    p.calls[call]? = some ⟨command, phase⟩ → phase.place? = some (turn, accepted) →
    ∃ signal, p.turns[turn]? = some ⟨call, signal, .held⟩ ∧ command.signal? accepted = some signal
  /-- A turn that is held is that of its call, and the call of any other turn is done. -/
  held : ∀ {turn : Nat} {t : Turn}, p.turns[turn]? = some t → ∃ command phase,
    p.calls[t.call]? = some ⟨command, phase⟩ ∧
      (t.status = .held → ∃ accepted, phase.place? = some (turn, accepted)) ∧
      (t.status ≠ .held → phase.isDone = true)
  /-- No two turns are of one call. -/
  distinct : (p.turns.map (·.call)).Nodup
  /-- A signal is in progress only when its turn has come. -/
  come : ∀ {call : CallId} {command : Command} {turn : Nat} {accepted : Snapshot},
    p.calls[call]? = some ⟨command, .signalling turn accepted⟩ → p.hasCome turn = true
  /-- The turns before one that was given up were given up. -/
  released : ∀ {earlier later : Nat}, earlier ≤ later → p.IsReleased later → p.IsReleased earlier

theorem Queued.hasCome_iff (hp : p.Queued) :
    p.hasCome turn = true ↔ ∀ earlier < turn, p.IsReleased earlier := by
  cases turn with
  | zero => simp [hasCome_zero]
  | succ last =>
    rw [hasCome_succ]
    constructor
    · intro h earlier hlt
      exact hp.released (Nat.le_of_lt_succ hlt) h
    · intro h
      exact h last (Nat.lt_succ_self last)

/-- A call that was made and has not run has no turn. -/
theorem Queued.call_ne (hp : p.Queued) (hcall : p.calls[call]? = some ⟨command, .made⟩) {t : Turn}
    (hturn : p.turns[turn]? = some t) : t.call ≠ call := by
  rintro rfl
  obtain ⟨_, phase, hphase, hheld, hdone⟩ := hp.held hturn
  rw [hcall, Option.some.injEq, Call.mk.injEq] at hphase
  obtain ⟨_, rfl⟩ := hphase
  by_cases h : t.status = .held
  · obtain ⟨_, hplace⟩ := hheld h
    cases hplace
  · exact absurd (hdone h) (by decide)

/-- A call whose turn it is has no other. -/
theorem Queued.turn_eq (hp : p.Queued) {phase : Phase} {other : Nat} {t : Turn}
    (hcall : p.calls[call]? = some ⟨command, phase⟩)
    (hplace : phase.place? = some (turn, accepted)) (hturn : p.turns[other]? = some t)
    (ht : t.call = call) : other = turn := by
  subst ht
  obtain ⟨_, _, hphase, hheld, hdone⟩ := hp.held hturn
  rw [hcall, Option.some.injEq, Call.mk.injEq] at hphase
  obtain ⟨_, rfl⟩ := hphase
  by_cases h : t.status = .held
  · obtain ⟨_, hother⟩ := hheld h
    rw [hplace, Option.some.injEq, Prod.mk.injEq] at hother
    exact hother.1.symm
  · rw [Phase.place?_of_isDone (hdone h)] at hplace
    cases hplace

theorem Step.move (hstep : Step p now event q) (hp : p.Queued) : Move p q := by
  cases hstep with
  | make command => exact .make command rfl rfl
  | reject hcall hrule hresult => exact .pass hcall rfl rfl rfl
  | report hcall hrule hnext hsignal hresult => exact .pass hcall rfl rfl rfl
  | enter hcall hrule hnext hsignal hcome =>
    exact .join hcall (Or.inr ⟨rfl, hcome⟩) hsignal rfl rfl
  | queue hcall hrule hnext hsignal hcome => exact .join hcall (Or.inl rfl) hsignal rfl rfl
  | wake hcall hturn hcome => exact .wake hcall hcome rfl rfl
  | fail hcall hresult => exact .leave hcall rfl rfl (Or.inr ⟨rfl, hp.come hcall⟩) rfl rfl
  | deliver hcall hfinal hresult =>
    exact .leave hcall rfl rfl (Or.inr ⟨rfl, hp.come hcall⟩) rfl rfl
  | complete hcall hfinal hnext hresult =>
    exact .leave hcall rfl rfl (Or.inr ⟨rfl, hp.come hcall⟩) rfl rfl
  | withdraw hcall => exact .pass hcall rfl rfl rfl
  | miss hcall hcome => exact .leave hcall rfl rfl (Or.inr ⟨rfl, hcome⟩) rfl rfl
  | leave hcall hcome => exact .leave hcall rfl rfl (Or.inl rfl) rfl rfl
  | interrupt hcall => exact .leave hcall rfl rfl (Or.inr ⟨rfl, hp.come hcall⟩) rfl rfl
  | handOver hturn hstatus hcome => exact .handOver hturn hstatus hcome rfl rfl

/-! ### Giving turns up -/

/-- A turn that was given up stays so. -/
theorem Move.isReleased (hmove : Move p q) (hp : p.Queued) (h : p.IsReleased turn) :
    q.IsReleased turn := by
  cases hmove with
  | make command hcalls hturns => exact (isReleased_congr hturns).mpr h
  | pass hcall hlater hcalls hturns => exact (isReleased_congr hturns).mpr h
  | wake hcall hcome hcalls hturns => exact (isReleased_congr hturns).mpr h
  | join hcall hlater hsignal hcalls hturns =>
    obtain ⟨t, ht, hstatus⟩ := h
    refine ⟨t, ?_, hstatus⟩
    rw [hturns, List.getElem?_append_left (List.getElem?_eq_some_iff.mp ht).1, ht]
  | @leave call command left accepted phase later status hcall hplace hlater hstatus hcalls hturns =>
    rw [isReleased_congr hturns, isReleased_setTurn]
    -- the turn that is left was held until now
    have hne : left ≠ turn := by
      rintro rfl
      obtain ⟨t, ht, hreleased⟩ := h
      obtain ⟨signal, hheld, _⟩ := hp.holds hcall hplace
      rw [hheld, Option.some.injEq] at ht
      subst ht
      cases hreleased
    rwa [if_neg hne]
  | @handOver left t hturn hstatus hcome hcalls hturns =>
    rw [isReleased_congr hturns, isReleased_setTurn]
    split_ifs with heq
    · exact ⟨rfl, h.lt⟩
    · exact h

/-- No turn is given up before it has come. -/
theorem Move.hasCome_of_isReleased (hmove : Move p q) (h : q.IsReleased turn) :
    p.IsReleased turn ∨ p.hasCome turn = true := by
  cases hmove with
  | make command hcalls hturns => exact Or.inl ((isReleased_congr hturns).mp h)
  | pass hcall hlater hcalls hturns => exact Or.inl ((isReleased_congr hturns).mp h)
  | wake hcall hcome hcalls hturns => exact Or.inl ((isReleased_congr hturns).mp h)
  | join hcall hlater hsignal hcalls hturns =>
    obtain ⟨t, ht, hstatus⟩ := h
    rw [hturns] at ht
    rcases Nat.lt_or_ge turn p.turns.length with hlt | hge
    · rw [List.getElem?_append_left hlt] at ht
      exact Or.inl ⟨t, ht, hstatus⟩
    · -- the turn that is taken is held
      rw [List.getElem?_append_right hge, List.getElem?_singleton] at ht
      split_ifs at ht
      rw [← Option.some.inj ht] at hstatus
      cases hstatus
  | leave hcall hplace hlater hstatus hcalls hturns =>
    rw [isReleased_congr hturns, isReleased_setTurn] at h
    split_ifs at h with heq
    · subst heq
      rcases hstatus with rfl | ⟨_, hcome⟩
      · cases h.1
      · exact Or.inr hcome
    · exact Or.inl h
  | handOver hturn hstatus hcome hcalls hturns =>
    rw [isReleased_congr hturns, isReleased_setTurn] at h
    split_ifs at h with heq
    · exact Or.inr (heq ▸ hcome)
    · exact Or.inl h

/-- A turn that has come stays come. -/
theorem Move.hasCome (hmove : Move p q) (hp : p.Queued) (h : p.hasCome turn = true) :
    q.hasCome turn = true := by
  cases turn with
  | zero => rfl
  | succ last =>
    rw [hasCome_succ] at h ⊢
    exact hmove.isReleased hp h

theorem Move.released (hmove : Move p q) (hp : p.Queued) {earlier later : Nat}
    (hle : earlier ≤ later) (h : q.IsReleased later) : q.IsReleased earlier := by
  rcases hmove.hasCome_of_isReleased h with hreleased | hcome
  · exact hmove.isReleased hp (hp.released hle hreleased)
  · -- the turn is given up now, and those before it were
    rcases Nat.eq_or_lt_of_le hle with rfl | hlt
    · exact h
    · exact hmove.isReleased hp (hp.hasCome_iff.mp hcome earlier hlt)

/-! ### The queue stays sound -/

theorem Move.come (hmove : Move p q) (hp : p.Queued)
    (hcall : q.calls[call]? = some ⟨command, .signalling turn accepted⟩) :
    q.hasCome turn = true := by
  apply hmove.hasCome hp
  cases hmove with
  | make new hcalls hturns =>
    rw [hcalls, List.getElem?_append] at hcall
    split_ifs at hcall
    · exact hp.come hcall
    · rw [List.getElem?_singleton] at hcall
      split_ifs at hcall
      cases hcall
  | pass hmade hlater hcalls hturns =>
    rw [hcalls] at hcall
    rcases eq_or_of_setPhase hcall with ⟨_, rfl, _⟩ | ⟨_, hold⟩
    · cases hlater
    · exact hp.come hold
  | join hmade hlater hsignal hcalls hturns =>
    rw [hcalls] at hcall
    rcases eq_or_of_setPhase hcall with ⟨_, rfl, _⟩ | ⟨_, hold⟩
    · rcases hlater with hlater | ⟨hlater, hcome⟩
      · cases hlater
      · cases hlater
        exact hcome
    · exact hp.come hold
  | wake hwaiting hcome hcalls hturns =>
    rw [hcalls] at hcall
    rcases eq_or_of_setPhase hcall with ⟨_, heq, _⟩ | ⟨_, hold⟩
    · cases heq
      exact hcome
    · exact hp.come hold
  | leave hheld hplace hlater hstatus hcalls hturns =>
    rw [hcalls] at hcall
    rcases eq_or_of_setPhase hcall with ⟨_, rfl, _⟩ | ⟨_, hold⟩
    · cases hlater
    · exact hp.come hold
  | handOver hturn hstatus hcome hcalls hturns =>
    rw [hcalls] at hcall
    exact hp.come hcall

theorem Move.distinct (hmove : Move p q) (hp : p.Queued) : (q.turns.map (·.call)).Nodup := by
  cases hmove with
  | make command hcalls hturns => exact hturns ▸ hp.distinct
  | pass hcall hlater hcalls hturns => exact hturns ▸ hp.distinct
  | wake hcall hcome hcalls hturns => exact hturns ▸ hp.distinct
  | join hcall hlater hsignal hcalls hturns =>
    rw [hturns, List.map_append, List.nodup_append]
    refine ⟨hp.distinct, by simp, ?_⟩
    intro other hother new hnew
    rw [List.map_singleton, List.mem_singleton] at hnew
    obtain ⟨t, ht, rfl⟩ := List.mem_map.mp hother
    obtain ⟨turn, hturn⟩ := List.mem_iff_getElem?.mp ht
    exact hnew ▸ hp.call_ne hcall hturn
  | leave hcall hplace hlater hstatus hcalls hturns =>
    rw [hturns, map_setTurn fun call _ => call]
    exact hp.distinct
  | handOver hturn hstatus hcome hcalls hturns =>
    rw [hturns, map_setTurn fun call _ => call]
    exact hp.distinct

theorem Move.holds (hmove : Move p q) (hp : p.Queued) {phase : Phase}
    (hcall : q.calls[call]? = some ⟨command, phase⟩)
    (hplace : phase.place? = some (turn, accepted)) :
    ∃ signal, q.turns[turn]? = some ⟨call, signal, .held⟩ ∧
      command.signal? accepted = some signal := by
  cases hmove with
  | make new hcalls hturns =>
    rw [hturns]
    rw [hcalls, List.getElem?_append] at hcall
    split_ifs at hcall
    · exact hp.holds hcall hplace
    · rw [List.getElem?_singleton] at hcall
      split_ifs at hcall
      cases hcall
      cases hplace
  | pass hmade hlater hcalls hturns =>
    rw [hturns]
    rw [hcalls] at hcall
    rcases eq_or_of_setPhase hcall with ⟨_, rfl, _⟩ | ⟨_, hold⟩
    · rw [Phase.place?_of_isDone hlater] at hplace
      cases hplace
    · exact hp.holds hold hplace
  | @join joined command' accepted' signal later hmade hlater hsignal hcalls hturns =>
    rw [hcalls] at hcall
    rw [hturns]
    rcases eq_or_of_setPhase hcall with ⟨rfl, rfl, old, hold⟩ | ⟨_, hold⟩
    · -- the call that joins holds the last turn
      rw [hmade, Option.some.injEq, Call.mk.injEq] at hold
      obtain ⟨rfl, _⟩ := hold
      have hlast : phase.place? = some (p.turns.length, accepted') := by
        rcases hlater with rfl | ⟨rfl, _⟩ <;> rfl
      rw [hlast, Option.some.injEq, Prod.mk.injEq] at hplace
      obtain ⟨rfl, rfl⟩ := hplace
      exact ⟨signal, List.getElem?_concat_length, hsignal⟩
    · obtain ⟨other, hturn, hother⟩ := hp.holds hold hplace
      refine ⟨other, ?_, hother⟩
      rw [List.getElem?_append_left (List.getElem?_eq_some_iff.mp hturn).1, hturn]
  | wake hwaiting hcome hcalls hturns =>
    rw [hturns]
    rw [hcalls] at hcall
    rcases eq_or_of_setPhase hcall with ⟨rfl, rfl, old, hold⟩ | ⟨_, hold⟩
    · rw [hwaiting, Option.some.injEq, Call.mk.injEq] at hold
      obtain ⟨rfl, _⟩ := hold
      exact hp.holds hwaiting hplace
    · exact hp.holds hold hplace
  | @leave left command' turn' accepted' phase' later status hheld hplace' hlater hstatus hcalls
      hturns =>
    rw [hcalls] at hcall
    rw [hturns, getElem?_setTurn]
    rcases eq_or_of_setPhase hcall with ⟨_, rfl, _⟩ | ⟨hne, hold⟩
    · rw [Phase.place?_of_isDone hlater] at hplace
      cases hplace
    · -- the turn that is left is another, as its call is
      obtain ⟨signal, hturn, hsignal⟩ := hp.holds hold hplace
      have hother : turn' ≠ turn := by
        rintro rfl
        obtain ⟨_, hturn', _⟩ := hp.holds hheld hplace'
        rw [hturn', Option.some.injEq, Turn.mk.injEq] at hturn
        exact hne hturn.1.symm
      rw [if_neg hother]
      exact ⟨signal, hturn, hsignal⟩
  | @handOver left t hleft hstatus hcome hcalls hturns =>
    rw [hcalls] at hcall
    rw [hturns, getElem?_setTurn]
    obtain ⟨signal, hturn, hsignal⟩ := hp.holds hcall hplace
    -- the turn that is given up was left behind, so it is not held
    have hother : left ≠ turn := by
      rintro rfl
      rw [hleft, Option.some.injEq] at hturn
      rw [hturn] at hstatus
      cases hstatus
    rw [if_neg hother]
    exact ⟨signal, hturn, hsignal⟩

/-- A turn of a call that did not move stands as it did. -/
theorem Queued.held_of_ne (hp : p.Queued) {moved : CallId} {later : Phase} {t : Turn}
    (hturn : p.turns[turn]? = some t) (hne : moved ≠ t.call) :
    ∃ command phase, (p.setPhase moved later).calls[t.call]? = some ⟨command, phase⟩ ∧
      (t.status = .held → ∃ accepted, phase.place? = some (turn, accepted)) ∧
      (t.status ≠ .held → phase.isDone = true) := by
  rw [getElem?_setPhase, if_neg hne]
  exact hp.held hturn

theorem Move.held (hmove : Move p q) (hp : p.Queued) {t : Turn}
    (hturn : q.turns[turn]? = some t) :
    ∃ command phase, q.calls[t.call]? = some ⟨command, phase⟩ ∧
      (t.status = .held → ∃ accepted, phase.place? = some (turn, accepted)) ∧
      (t.status ≠ .held → phase.isDone = true) := by
  cases hmove with
  | make new hcalls hturns =>
    rw [hturns] at hturn
    obtain ⟨command, phase, hcall, h⟩ := hp.held hturn
    refine ⟨command, phase, ?_, h⟩
    rw [hcalls, List.getElem?_append_left (List.getElem?_eq_some_iff.mp hcall).1, hcall]
  | pass hmade hlater hcalls hturns =>
    rw [hturns] at hturn
    rw [hcalls]
    exact hp.held_of_ne hturn (hp.call_ne hmade hturn).symm
  | @join joined command accepted signal later hmade hlater hsignal hcalls hturns =>
    rw [hturns] at hturn
    rw [hcalls]
    rcases Nat.lt_or_ge turn p.turns.length with hlt | hge
    · rw [List.getElem?_append_left hlt] at hturn
      exact hp.held_of_ne hturn (hp.call_ne hmade hturn).symm
    · -- the last turn is that of the call that joins
      rw [List.getElem?_append_right hge, List.getElem?_singleton] at hturn
      split_ifs at hturn with hlast
      have hlength : turn = p.turns.length := by omega
      rw [← Option.some.inj hturn, getElem?_setPhase, if_pos rfl, hmade]
      refine ⟨command, later, rfl, fun _ => ⟨accepted, ?_⟩, fun h => absurd rfl h⟩
      rcases hlater with rfl | ⟨rfl, _⟩ <;> rw [hlength] <;> rfl
  | @wake woken command turn' accepted hwaiting hcome hcalls hturns =>
    rw [hturns] at hturn
    rw [hcalls]
    by_cases hne : woken = t.call
    · obtain ⟨_, phase, hcall, hheld, hdone⟩ := hp.held hturn
      rw [getElem?_setPhase, if_pos hne, hcall]
      rw [← hne, hwaiting, Option.some.injEq, Call.mk.injEq] at hcall
      obtain ⟨_, rfl⟩ := hcall
      exact ⟨_, _, rfl, hheld, hdone⟩
    · exact hp.held_of_ne hturn hne
  | @leave left command turn' accepted phase later status hheld hplace hlater hstatus hcalls
      hturns =>
    rw [hturns, getElem?_setTurn] at hturn
    rw [hcalls]
    split_ifs at hturn with heq
    · -- the turn that is left is that of the call that is done
      subst heq
      obtain ⟨signal, hleft, _⟩ := hp.holds hheld hplace
      rw [hleft, Option.map_some] at hturn
      rw [← Option.some.inj hturn, getElem?_setPhase, if_pos rfl, hheld]
      refine ⟨command, later, rfl, ?_, fun _ => hlater⟩
      rintro rfl
      rcases hstatus with h | ⟨h, _⟩ <;> cases h
    · refine hp.held_of_ne hturn ?_
      intro hcall
      exact heq (hp.turn_eq hheld hplace hturn hcall.symm).symm
  | @handOver left t' hleft hstatus hcome hcalls hturns =>
    rw [hturns, getElem?_setTurn] at hturn
    rw [hcalls]
    split_ifs at hturn with heq
    · subst heq
      rw [hleft, Option.map_some] at hturn
      rw [← Option.some.inj hturn]
      obtain ⟨command, phase, hcall, _, hdone⟩ := hp.held hleft
      exact ⟨command, phase, hcall, nofun, fun _ => hdone (by rw [hstatus]; decide)⟩
    · exact hp.held hturn

/-- Every event leaves the calls and the turns fitting. -/
theorem Step.queued (hstep : Step p now event q) (hp : p.Queued) : q.Queued where
  holds := (hstep.move hp).holds hp
  held := (hstep.move hp).held hp
  distinct := (hstep.move hp).distinct hp
  come := (hstep.move hp).come hp
  released := (hstep.move hp).released hp

theorem queued_idle (first : Snapshot) : (idle first).Queued where
  holds h := by simp [idle] at h
  held h := by simp [idle] at h
  distinct := List.nodup_nil
  come h := by simp [idle] at h
  released _ h := absurd h.lt (Nat.not_lt_zero _)

/-- The calls and the turns fit in every state that can be reached. -/
theorem Reachable.queued {first : Snapshot} (h : Reachable first p) : p.Queued :=
  h.induction (queued_idle first) fun _ _ _ _ _ hp hstep => hstep.queued hp

end ControlPlane

end Cutover
