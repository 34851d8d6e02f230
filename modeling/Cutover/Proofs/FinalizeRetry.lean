import Cutover.Proofs.LoneCall

/-!
# A finalize can be asked for again

While no other call is pending, finalizes are awaited one after another.  The signals of the first ones fail,
which leaves the migration finalizing, and the signal of the last one returns, which completes the cutover.
Main statement: `finalize_retried`.

An accepted finalize leads to the finalizing state and leaves a finalizing migration as it is
(`Snapshot.BeginsCutover`).  So of all finalizes whose signals fail only the first can change the snapshot,
however many there are (`AwaitsAll.of_refused`), and the last one completes what that one has begun
(`Awaits.of_returned`).  A finalized migration rejects every finalize (`AwaitsAll.of_finalized`).
-/

namespace Cutover

open Journal

/-- Whether a migration can be finalized, as far as its state tells. -/
def State.canFinalize (state : State) : Bool :=
  state = .running || state = .paused || state = .finalizing

namespace Snapshot

variable {s t u : Snapshot} {now : Timestamp} {ignoreHistoryLost : Bool}

/-- The records that lead to the finalizing state: there is none if the migration is finalizing already. -/
def entryRecords (s : Snapshot) (now : Timestamp) : List Record :=
  if s.state = .finalizing then []
  else
    [⟨"finalize", s.state, .finalizing, now,
      if s.historyLost then [("ignore_history_lost", .bool true)] else []⟩]

/-- A snapshot is led to the finalizing state, or is left as it is if it is there already. -/
structure BeginsCutover (s next : Snapshot) : Prop where
  state : next.state = .finalizing
  historyLost : next.historyLost = s.historyLost
  history : ∃ now, next.history = s.history ++ s.entryRecords now
  kept : s.state = .finalizing → next = s

/-- A cutover that has begun is not begun once more. -/
theorem BeginsCutover.eq_of_begun (h : s.BeginsCutover t) (hnext : t.BeginsCutover u) : u = t :=
  hnext.kept h.state

theorem canFinalize_of_state (h : s.state = .finalizing) : s.state.canFinalize = true := by
  rw [h]
  rfl

/-- A finalize that passes the check for lost history is accepted, and begins the cutover. -/
theorem beginFinalize_of_canFinalize (hstate : s.state.canFinalize = true)
    (hlost : s.historyLost = true → ignoreHistoryLost = true) (now : Timestamp) :
    (s.beginFinalize ignoreHistoryLost now).isAccepted = true ∧
      s.BeginsCutover ((s.beginFinalize ignoreHistoryLost now).after s) := by
  have hallowed : Rule.isAllowed .finalize s.state = true := by
    rw [Rule.isAllowed_iff]
    simpa [State.canFinalize, Rule.sources, or_assoc] using hstate
  have hopen : (s.historyLost && !ignoreHistoryLost) = false := by
    cases hs : s.historyLost with
    | false => rfl
    | true => rw [hlost hs]; rfl
  rw [Snapshot.beginFinalize, hallowed, hopen]
  by_cases hs : s.state = .finalizing
  · have hnone : s.history = s.history ++ s.entryRecords now := by
      rw [entryRecords, if_pos hs, List.append_nil]
    simp only [hs, Bool.not_true, Bool.false_eq_true, if_false, if_true]
    exact ⟨rfl, hs, rfl, ⟨now, hnone⟩, fun _ => rfl⟩
  · simp only [hs, Bool.not_true, Bool.false_eq_true, if_false]
    refine ⟨rfl, rfl, rfl, ⟨now, ?_⟩, fun h => absurd h hs⟩
    rw [entryRecords, if_neg hs]
    rfl

/-- A cutover that has begun is completed by one record. -/
theorem completeFinalize_of_state (h : s.state = .finalizing) (now : Timestamp) :
    s.completeFinalize now = .moved (s.moveTo "finalize" .finalized [] now) := by
  rw [completeFinalize, h]
  rfl

/-- A finalized migration rejects every finalize. -/
theorem beginFinalize_of_finalized (h : s.state = .finalized) (now : Timestamp) :
    s.beginFinalize ignoreHistoryLost now = .rejected (.notAllowed "finalize" .finalized) := by
  rw [Snapshot.beginFinalize, h]
  rfl

end Snapshot

namespace ControlPlane

variable {p q r : ControlPlane} {first : Snapshot} {ignoreHistoryLost : Bool} {cause : String}
  {failure : Option String}

/-- The signals of finalizes by calls that are numbered from `call` on. -/
def finalizeSignals (call : CallId) (flags : List Bool) : List (CallId × Signal) :=
  (flags.zipIdx call).map fun flag => (flag.2, .finalize flag.1)

theorem finalizeSignals_cons (call : CallId) (flag : Bool) (flags : List Bool) :
    finalizeSignals call (flag :: flags) = (call, .finalize flag) :: finalizeSignals (call + 1) flags := by
  rw [finalizeSignals, List.zipIdx_cons, List.map_cons]
  rfl

theorem finalizeSignals_concat (call : CallId) (flags : List Bool) (flag : Bool) :
    finalizeSignals call (flags ++ [flag]) =
      finalizeSignals call flags ++ [(call + flags.length, .finalize flag)] := by
  rw [finalizeSignals, List.zipIdx_append, List.map_append]
  rfl

/-- A finalize whose signal failed, as it was answered. -/
def refusedFinalize (s : Snapshot) (attempt : Bool × String) : Call :=
  ⟨.finalize attempt.1,
    .answered { command := "finalize", snapshot := s, signalError := some attempt.2 }⟩

/-- A finalize that was rejected as the migration is finalized, as it was answered. -/
def lateFinalize (s : Snapshot) (flag : Bool) : Call :=
  ⟨.finalize flag,
    .answered
      { command := "finalize", snapshot := s, error := some (.notAllowed "finalize" .finalized) }⟩

/-! ### One finalize -/

/-- A finalize whose signal fails begins the cutover, and is answered with the failure. -/
theorem Awaits.of_refused (h : Awaits p (.finalize ignoreHistoryLost) (some cause) q)
    (hp : p.HasNoPending) (hr : Reachable first p) (hstate : p.snapshot.state.canFinalize = true)
    (hlost : p.snapshot.historyLost = true → ignoreHistoryLost = true) :
    p.snapshot.BeginsCutover q.snapshot ∧
      q.calls = p.calls ++ [refusedFinalize q.snapshot (ignoreHistoryLost, cause)] ∧
      q.journal.signals = p.journal.signals ++ [(p.calls.length, .finalize ignoreHistoryLost)] := by
  obtain ⟨made, ran, ended, hsnapshot, hcalls, hsignals⟩ := h.outcome hp hr
  obtain ⟨haccepted, hbegins⟩ := Snapshot.beginFinalize_of_canFinalize hstate hlost ran
  have houtcome := AwaitedCall.outcome_of_failure
    (a := ⟨.finalize ignoreHistoryLost, made, ran, ended, some cause⟩) haccepted rfl rfl
  have hsent := AwaitedCall.signal?_of_accepted
    (a := ⟨.finalize ignoreHistoryLost, made, ran, ended, some cause⟩) haccepted
  rw [houtcome] at hsnapshot hcalls
  rw [hsent] at hsignals
  refine ⟨hsnapshot ▸ hbegins, ?_, hsignals⟩
  rw [hcalls, refusedFinalize, hsnapshot]
  rfl

/-- A finalize whose signal returns begins the cutover if it has not begun, completes it, and is answered
without reservation. -/
theorem Awaits.of_returned (h : Awaits p (.finalize ignoreHistoryLost) none q) (hp : p.HasNoPending)
    (hr : Reachable first p) (hstate : p.snapshot.state.canFinalize = true)
    (hlost : p.snapshot.historyLost = true → ignoreHistoryLost = true) :
    (∃ begun completed, p.snapshot.BeginsCutover begun ∧
      q.snapshot = begun.moveTo "finalize" .finalized [] completed) ∧
      q.calls = p.calls ++
        [⟨.finalize ignoreHistoryLost, .answered { command := "finalize", snapshot := q.snapshot }⟩] ∧
      q.journal.signals = p.journal.signals ++ [(p.calls.length, .finalize ignoreHistoryLost)] := by
  obtain ⟨made, ran, ended, hsnapshot, hcalls, hsignals⟩ := h.outcome hp hr
  obtain ⟨haccepted, hbegins⟩ := Snapshot.beginFinalize_of_canFinalize hstate hlost ran
  have hcompleted := Snapshot.completeFinalize_of_state hbegins.state ended
  have houtcome := AwaitedCall.outcome_of_finalize
    (a := ⟨.finalize ignoreHistoryLost, made, ran, ended, none⟩) rfl rfl haccepted rfl hcompleted
  have hsent := AwaitedCall.signal?_of_accepted
    (a := ⟨.finalize ignoreHistoryLost, made, ran, ended, none⟩) haccepted
  rw [houtcome] at hsnapshot hcalls
  rw [hsent] at hsignals
  refine ⟨⟨_, ended, hbegins, hsnapshot⟩, ?_, hsignals⟩
  rw [hcalls, hsnapshot]
  rfl

/-- A finalize of a finalized migration is rejected without a signal. -/
theorem Awaits.of_finalized (h : Awaits p (.finalize ignoreHistoryLost) failure q) (hp : p.HasNoPending)
    (hr : Reachable first p) (hstate : p.snapshot.state = .finalized) :
    q.snapshot = p.snapshot ∧ q.calls = p.calls ++ [lateFinalize p.snapshot ignoreHistoryLost] ∧
      q.journal.signals = p.journal.signals := by
  obtain ⟨made, ran, ended, hsnapshot, hcalls, hsignals⟩ := h.outcome hp hr
  have hrejected : (Command.finalize ignoreHistoryLost).rule.apply p.snapshot ran =
      .rejected (.notAllowed "finalize" .finalized) := Snapshot.beginFinalize_of_finalized hstate ran
  have houtcome := AwaitedCall.outcome_of_rejected
    (a := ⟨.finalize ignoreHistoryLost, made, ran, ended, failure⟩) hrejected
  have hsent := AwaitedCall.signal?_of_rejected
    (a := ⟨.finalize ignoreHistoryLost, made, ran, ended, failure⟩) (s := p.snapshot)
    (by rw [hrejected]; rfl)
  rw [houtcome] at hsnapshot hcalls
  rw [hsent] at hsignals
  exact ⟨hsnapshot, hcalls, hsignals.trans (List.append_nil _)⟩

/-! ### Finalizes one after another -/

/-- Finalizes whose signals fail leave what the first of them has begun. -/
theorem AwaitsAll.of_refused {refused : List (Bool × String)}
    (h : AwaitsAll p (refused.map fun attempt => (.finalize attempt.1, some attempt.2)) q)
    (hp : p.HasNoPending) (hr : Reachable first p) (hstate : p.snapshot.state.canFinalize = true)
    (hlost : p.snapshot.historyLost = true → ∀ attempt ∈ refused, attempt.1 = true) :
    q.HasNoPending ∧ Reachable first q ∧
      q.calls = p.calls ++ refused.map (refusedFinalize q.snapshot) ∧
      q.journal.signals = p.journal.signals ++ finalizeSignals p.calls.length (refused.map (·.1)) ∧
      ((refused = [] ∧ q.snapshot = p.snapshot) ∨ p.snapshot.BeginsCutover q.snapshot) := by
  induction refused generalizing p with
  | nil =>
    cases h with
    | nil => exact ⟨hp, hr, (List.append_nil _).symm, (List.append_nil _).symm, Or.inl ⟨rfl, rfl⟩⟩
  | cons attempt refused ih =>
    obtain ⟨flag, cause⟩ := attempt
    cases h with
    | @cons _ next _ _ _ _ hawaits hrest =>
      obtain ⟨hbegins, hcalls, hsignals⟩ := hawaits.of_refused hp hr hstate
        fun hs => hlost hs _ List.mem_cons_self
      obtain ⟨hq, hreach, hmore, hsent, hend⟩ := ih hrest (hawaits.hasNoPending hp hr)
        (hawaits.reachable hr) (Snapshot.canFinalize_of_state hbegins.state)
        fun hs attempt hmem => hlost (hbegins.historyLost ▸ hs) attempt (List.mem_cons_of_mem _ hmem)
      -- the first finalize has begun the cutover, and the others leave it as it is
      have hsame : q.snapshot = next.snapshot := by
        rcases hend with ⟨_, hsnapshot⟩ | hagain
        · exact hsnapshot
        · exact hbegins.eq_of_begun hagain
      refine ⟨hq, hreach, ?_, ?_, Or.inr (hsame ▸ hbegins)⟩
      · rw [hmore, hcalls, hsame, List.map_cons, List.append_assoc]
        rfl
      · rw [hsent, hsignals, hcalls, List.length_append, List.map_cons, finalizeSignals_cons,
          List.append_assoc]
        rfl

/-- A finalized migration stays as it is, and is not signalled, however often it is finalized again. -/
theorem AwaitsAll.of_finalized {further : List (Bool × Option String)}
    (h : AwaitsAll p (further.map fun call => (.finalize call.1, call.2)) q) (hp : p.HasNoPending)
    (hr : Reachable first p) (hstate : p.snapshot.state = .finalized) :
    q.snapshot = p.snapshot ∧ q.journal.signals = p.journal.signals ∧
      q.calls = p.calls ++ further.map fun call => lateFinalize p.snapshot call.1 := by
  induction further generalizing p with
  | nil =>
    cases h with
    | nil => exact ⟨rfl, rfl, (List.append_nil _).symm⟩
  | cons call further ih =>
    obtain ⟨flag, failure⟩ := call
    cases h with
    | @cons _ next _ _ _ _ hawaits hrest =>
      obtain ⟨hsnapshot, hcalls, hsignals⟩ := hawaits.of_finalized hp hr hstate
      obtain ⟨hsame, hsent, hmore⟩ := ih hrest (hawaits.hasNoPending hp hr) (hawaits.reachable hr)
        (hsnapshot ▸ hstate)
      refine ⟨hsame.trans hsnapshot, hsent.trans hsignals, ?_⟩
      rw [hmore, hcalls, hsnapshot, List.append_assoc]
      rfl

/-- **A finalize can be retried any number of times**, on a control plane without a pending call whose
migration is running, paused or finalizing.  Finalizes are awaited one after another while nothing else is
called; if history is lost, each of them asks to ignore that.  The signals of the first ones fail and that of
the last returns, and all of this can happen.  Then all finalizes are accepted: the first ones are answered
with the failures of their signals and leave the migration finalizing, and the last one is answered without
reservation and leaves it finalized.  The engine was sent the signal of each finalize once, and the history
has gone on by the record that leads to the finalizing state, unless the migration was there, and by the one
that leads to the finalized state.  Every further finalize is rejected, changes nothing and sends no signal. -/
theorem finalize_retried {refused : List (Bool × String)} (hr : Reachable first p) (hp : p.HasNoPending)
    (hstate : p.snapshot.state.canFinalize = true)
    (hlost : p.snapshot.historyLost = true →
      (∀ attempt ∈ refused, attempt.1 = true) ∧ ignoreHistoryLost = true) :
    (∃ q r, AwaitsAll p (refused.map fun attempt => (.finalize attempt.1, some attempt.2)) q ∧
      Awaits q (.finalize ignoreHistoryLost) none r) ∧
    ∀ q, AwaitsAll p (refused.map fun attempt => (.finalize attempt.1, some attempt.2)) q →
      (refused ≠ [] → q.snapshot.state = .finalizing) ∧
      q.calls = p.calls ++ refused.map (refusedFinalize q.snapshot) ∧
      ∀ r, Awaits q (.finalize ignoreHistoryLost) none r →
        r.snapshot.state = .finalized ∧
        r.calls = q.calls ++
          [⟨.finalize ignoreHistoryLost, .answered { command := "finalize", snapshot := r.snapshot }⟩] ∧
        r.journal.signals = p.journal.signals ++
          finalizeSignals p.calls.length (refused.map (·.1) ++ [ignoreHistoryLost]) ∧
        (∃ entered completed, r.snapshot.history = p.snapshot.history ++
          (p.snapshot.entryRecords entered ++ [⟨"finalize", .finalizing, .finalized, completed, []⟩])) ∧
        ∀ (further : List (Bool × Option String)) (t : ControlPlane),
          AwaitsAll r (further.map fun call => (.finalize call.1, call.2)) t →
          t.snapshot = r.snapshot ∧ t.journal.signals = r.journal.signals ∧
            t.calls = r.calls ++ further.map fun call => lateFinalize r.snapshot call.1 := by
  refine ⟨?_, ?_⟩
  · -- nothing else is pending, so each finalize can come to its answer
    obtain ⟨q, hq⟩ := exists_awaitsAll hp hr
      (refused.map fun attempt => (.finalize attempt.1, some attempt.2))
    obtain ⟨hpending, hreach, _⟩ := hq.of_refused hp hr hstate fun hs => (hlost hs).1
    obtain ⟨r, hlast⟩ := exists_awaits hpending hreach (.finalize ignoreHistoryLost) none
    exact ⟨q, r, hq, hlast⟩
  · intro q hq
    obtain ⟨hpending, hreach, hcalls, hsignals, hcases⟩ :=
      hq.of_refused hp hr hstate fun hs => (hlost hs).1
    have hopen : q.snapshot.state.canFinalize = true := by
      rcases hcases with ⟨_, hsame⟩ | hbegins
      · rw [hsame]
        exact hstate
      · exact Snapshot.canFinalize_of_state hbegins.state
    have hflag : q.snapshot.historyLost = true → ignoreHistoryLost = true := by
      intro hs
      rcases hcases with ⟨_, hsame⟩ | hbegins
      · exact (hlost (hsame ▸ hs)).2
      · exact (hlost (hbegins.historyLost ▸ hs)).2
    refine ⟨?_, hcalls, ?_⟩
    · intro hne
      rcases hcases with ⟨hnil, _⟩ | hbegins
      · exact absurd hnil hne
      · exact hbegins.state
    · intro r hlast
      obtain ⟨⟨begun, completed, hbegun, hsnapshot⟩, hanswer, hsent⟩ :=
        hlast.of_returned hpending hreach hopen hflag
      -- whichever finalize has entered the finalizing state, it has done so from the first snapshot
      have hentered : p.snapshot.BeginsCutover begun := by
        rcases hcases with ⟨_, hsame⟩ | hbegins
        · exact hsame ▸ hbegun
        · exact hbegins.eq_of_begun hbegun ▸ hbegins
      have hfinal : r.snapshot.state = .finalized := by
        rw [hsnapshot]
        rfl
      obtain ⟨entered, hhistory⟩ := hentered.history
      refine ⟨hfinal, hanswer, ?_, ⟨entered, completed, ?_⟩, ?_⟩
      · rw [hsent, hsignals, hcalls, finalizeSignals_concat, List.length_append, List.length_map,
          List.length_map, List.append_assoc]
      · rw [hsnapshot, Snapshot.history_moveTo, hhistory, hentered.state, List.append_assoc]
      · intro further t hfurther
        exact hfurther.of_finalized (hlast.hasNoPending hpending hreach) (hlast.reachable hreach) hfinal

/-- A resume is cancelled while it waits for its turn, and this turn is still to be given up when the migration
is finalized.  The engine refuses the first cutover and is busy at the second, and the third is completed. -/
theorem finalize_retried_behind_cancelled_resume :
    ∃ p, (idle (.fresh default)).runAll (atOnce default
        [.make (.start [] []), .run 0, .finish 0 none, .make .pause, .run 1,
          .make (.resume false), .run 2, .cancel 2, .finish 1 none]) = some p ∧
      (p.calls.all (·.phase.isDone) = true ∧ p.snapshot.state = .running ∧
        p.snapshot.historyLost = false ∧ p.calls.length = 3) ∧
      ∃ q r, AwaitsAll p [(.finalize false, some "refused"), (.finalize true, some "busy")] q ∧
        Awaits q (.finalize false) none r ∧
        q.snapshot.state = .finalizing ∧ r.snapshot.state = .finalized ∧
        r.journal.signals =
          p.journal.signals ++ [(3, .finalize false), (4, .finalize true), (5, .finalize false)] := by
  refine exists_run_and ?_ ⟨_, rfl, rfl, rfl, rfl, rfl⟩
  rintro p hrun ⟨hdone, hstate, hlost, hlength⟩
  have hopen : p.snapshot.state.canFinalize = true := by
    rw [hstate]
    rfl
  obtain ⟨⟨q, r, hq, hr⟩, hall⟩ :=
    @finalize_retried p _ false [(false, "refused"), (true, "busy")] ⟨_, hrun⟩
      (fun c hmem => List.all_eq_true.mp hdone c hmem) hopen
      (fun h => absurd (hlost.symm.trans h) Bool.false_ne_true)
  obtain ⟨hfinalizing, _, hlast⟩ := hall q hq
  obtain ⟨hfinalized, _, hsignals, _⟩ := hlast r hr
  rw [hlength] at hsignals
  exact ⟨q, r, hq, hr, hfinalizing (List.cons_ne_nil _ _), hfinalized, hsignals⟩

end ControlPlane

end Cutover
