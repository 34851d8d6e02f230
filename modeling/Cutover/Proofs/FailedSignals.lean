import Cutover.Proofs.AwaitedCall
import Mathlib.Data.List.Forall2
import Mathlib.Tactic.SplitIfs

/-!
# Failed signals do not influence the lifecycle

The same calls are awaited one after another on two control planes that begin alike.  The signals of starts,
pauses and resumes may fail on one and return on the other, and the two may be at different times.  After
every call the two agree on everything but the failures of those signals and the times: main statement
`lifecycle_ignores_failed_signals`.

What comes of an awaited call is a matter of the snapshot (`AwaitedCall.outcome`), and a rule gives the same
on snapshots that differ in times only (`Rule.untimed_apply`).
-/

namespace Cutover

/-! ### Snapshots without their times -/

/-- A record without its time. -/
def Record.untimed (record : Record) : Record :=
  { record with timestamp := default }

/-- A snapshot without the times in it. -/
def Snapshot.untimed (s : Snapshot) : Snapshot :=
  { s with history := s.history.map (·.untimed), updatedAt := default }

/-- An outcome without the times in it. -/
def Outcome.untimed : Outcome → Outcome
  | .rejected rejection => .rejected rejection
  | .kept => .kept
  | .moved next => .moved next.untimed

section Untimed

variable {s t : Snapshot} {now later : Timestamp} {outcome other : Outcome}

theorem Snapshot.untimed_eq_iff : s.untimed = t.untimed ↔
    s.state = t.state ∧ s.filter = t.filter ∧ s.failureReason = t.failureReason ∧
      s.historyLost = t.historyLost ∧ s.history.map (·.untimed) = t.history.map (·.untimed) := by
  simp [untimed]

/-- A change of state of snapshots that differ in times only. -/
theorem Snapshot.untimed_moveTo (h : s.untimed = t.untimed) (command : String) (target : State)
    (detail : Fields) :
    (s.moveTo command target detail now).untimed = (t.moveTo command target detail later).untimed := by
  obtain ⟨hstate, hfilter, hreason, hlost, hhistory⟩ := untimed_eq_iff.mp h
  rw [untimed_eq_iff]
  refine ⟨rfl, hfilter, ?_, hlost, ?_⟩
  · rw [moveTo, moveTo, hreason]
  · rw [history_moveTo, history_moveTo, List.map_append, List.map_append, hhistory, hstate]
    rfl

/-- A rule gives the same on snapshots that differ in times only. -/
theorem Rule.untimed_apply (rule : Rule) (h : s.untimed = t.untimed) :
    (rule.apply s now).untimed = (rule.apply t later).untimed := by
  obtain ⟨hstate, hfilter, hreason, hlost, hhistory⟩ := Snapshot.untimed_eq_iff.mp h
  have hmove (command : String) (target : State) (detail : Fields) :=
    @Snapshot.untimed_moveTo s t now later h command target detail
  cases rule with
  | start included excluded =>
    simp only [apply, Snapshot.start, hstate]
    split_ifs
    · cases Filter.build included excluded with
      | error entries => rfl
      | ok filter =>
        obtain ⟨_, _, hreason, hlost, hhistory⟩ :=
          Snapshot.untimed_eq_iff.mp (hmove "start" .running filter.payload)
        exact congrArg Outcome.moved (Snapshot.untimed_eq_iff.mpr ⟨rfl, rfl, hreason, hlost, hhistory⟩)
    · rfl
  | pause =>
    simp only [apply, Snapshot.pause, hstate]
    split_ifs
    · exact congrArg Outcome.moved (hmove ..)
    · rfl
  | resume fromFailure =>
    cases fromFailure with
    | false =>
      simp only [apply, Snapshot.resumePaused, hstate]
      split_ifs
      · exact congrArg Outcome.moved (hmove ..)
      · rfl
      · rfl
    | true =>
      simp only [apply, Snapshot.resumeFailed, hstate, hreason]
      split_ifs
      · exact congrArg Outcome.moved (hmove ..)
      · rfl
  | beginFinalize ignoreHistoryLost =>
    simp only [apply, Snapshot.beginFinalize, hstate, hlost]
    generalize (if t.historyLost then _ else _) = detail
    split_ifs
    · rfl
    · rfl
    · rfl
    · exact congrArg Outcome.moved (hmove ..)
  | completeFinalize =>
    simp only [apply, Snapshot.completeFinalize, hstate]
    split_ifs
    · exact congrArg Outcome.moved (hmove ..)
    · rfl
  | fail reason =>
    simp only [apply, Snapshot.fail, hstate]
    split_ifs
    · obtain ⟨_, hfilter, _, hlost, hhistory⟩ :=
        Snapshot.untimed_eq_iff.mp (hmove "fail" .failed [("reason", reason)])
      exact congrArg Outcome.moved (Snapshot.untimed_eq_iff.mpr ⟨rfl, hfilter, rfl, hlost, hhistory⟩)
    · rfl
  | markHistoryLost =>
    simp only [apply, Snapshot.markHistoryLost, hlost]
    split_ifs
    · rfl
    · exact congrArg Outcome.moved (Snapshot.untimed_eq_iff.mpr ⟨hstate, hfilter, hreason, rfl, hhistory⟩)

theorem Outcome.rejection?_untimed : outcome.untimed.rejection? = outcome.rejection? := by
  cases outcome <;> rfl

theorem Outcome.untimed_after (hs : s.untimed = t.untimed) (h : outcome.untimed = other.untimed) :
    (outcome.after s).untimed = (other.after t).untimed := by
  cases outcome with
  | moved next =>
    cases other with
    | moved next' => exact Outcome.moved.inj h
    | _ => cases h
  | _ =>
    cases other with
    | moved next' => cases h
    | _ => exact hs

end Untimed

/-! ### Calls whose signals may fail on their own -/

/-- Two calls of one command; if it is a finalize, their signals end in the same way. -/
structure AwaitedCall.Alike (a b : AwaitedCall) : Prop where
  command : a.command = b.command
  failure : a.command.isFinalize = true → a.failure = b.failure

/-- Two results of one command differ in times and in the failure of their signals at most, and in the
latter only if the command is no finalize. -/
structure CommandResult.Agrees (command : Command) (result other : CommandResult) : Prop where
  name : result.command = other.command
  isOk : result.isOk = other.isOk
  error : result.error = other.error
  superseded : result.superseded = other.superseded
  snapshot : result.snapshot.untimed = other.snapshot.untimed
  signalError : command.isFinalize = true → result.signalError = other.signalError

/-- Two calls of one command were answered with results that agree. -/
def Call.AgreesWith (c d : Call) : Prop :=
  c.command = d.command ∧ ∃ result other, c.phase = .answered result ∧ d.phase = .answered other ∧
    result.Agrees c.command other

section Outcome

variable {s t : Snapshot} {a b : AwaitedCall} {as bs : List AwaitedCall}

/-- The signal of a command does not depend on times. -/
theorem Command.signal?_congr (h : s.untimed = t.untimed) (command : Command) :
    command.signal? s = command.signal? t := by
  obtain ⟨_, hfilter, _⟩ := Snapshot.untimed_eq_iff.mp h
  cases command with
  | start included excluded => rw [signal?, signal?, hfilter]
  | _ => rfl

/-- Two calls that are alike come to the same on snapshots that differ in times only. -/
theorem AwaitedCall.Alike.outcome (h : a.Alike b) (hs : s.untimed = t.untimed) :
    (a.outcome s).1.untimed = (b.outcome t).1.untimed ∧
      (a.outcome s).2.Agrees a.command (b.outcome t).2 := by
  obtain ⟨command, _, ran, ended, failure⟩ := a
  obtain ⟨_, _, ran', ended', failure'⟩ := b
  obtain ⟨rfl, hfailure⟩ := h
  dsimp only at hfailure
  have hbegun : (command.rule.apply s ran).untimed = (command.rule.apply t ran').untimed :=
    command.rule.untimed_apply hs
  have hrejection : (command.rule.apply s ran).rejection? = (command.rule.apply t ran').rejection? := by
    rw [← Outcome.rejection?_untimed, hbegun, Outcome.rejection?_untimed]
  have haccepted := Outcome.untimed_after hs hbegun
  unfold AwaitedCall.outcome
  dsimp only
  rw [hrejection, command.signal?_congr haccepted]
  generalize (command.rule.apply s ran).after s = accepted at haccepted
  generalize (command.rule.apply t ran').after t = accepted' at haccepted
  cases (command.rule.apply t ran').rejection? with
  | some rejection => exact ⟨hs, rfl, rfl, rfl, rfl, hs, fun _ => rfl⟩
  | none =>
    cases command.signal? accepted' with
    | none => exact ⟨haccepted, rfl, rfl, rfl, rfl, haccepted, fun _ => rfl⟩
    | some signal =>
      cases hfinal : command.isFinalize with
      | false =>
        -- the signals may end in different ways, but nothing comes after them
        have hnot : command.isFinalize ≠ true := by rw [hfinal]; exact Bool.false_ne_true
        cases failure <;> cases failure' <;>
          exact ⟨haccepted, rfl, rfl, rfl, rfl, haccepted, fun h => absurd h hnot⟩
      | true =>
        obtain rfl := hfailure hfinal
        cases failure with
        | some cause => exact ⟨haccepted, rfl, rfl, rfl, rfl, haccepted, fun _ => rfl⟩
        | none =>
          have hcompleted : (Rule.completeFinalize.apply accepted ended).untimed =
              (Rule.completeFinalize.apply accepted' ended').untimed :=
            Rule.completeFinalize.untimed_apply haccepted
          have hafter := Outcome.untimed_after haccepted hcompleted
          simp only [↓reduceIte]
          refine ⟨hafter, rfl, rfl, rfl, ?_, hafter, fun _ => rfl⟩
          rw [← Outcome.rejection?_untimed, hcompleted, Outcome.rejection?_untimed]

/-- Calls that are alike, one by one, are answered alike and lead to the same snapshot but for times. -/
theorem AwaitedCall.answers_agree (h : List.Forall₂ Alike as bs) (hs : s.untimed = t.untimed) :
    (afterAll s as).untimed = (afterAll t bs).untimed ∧
      List.Forall₂ Call.AgreesWith (answers s as) (answers t bs) := by
  induction h generalizing s t with
  | nil => exact ⟨hs, .nil⟩
  | cons halike _ ih =>
    obtain ⟨hnext, hresult⟩ := halike.outcome hs
    obtain ⟨hafter, hrest⟩ := ih hnext
    exact ⟨hafter, .cons ⟨halike.command, _, _, rfl, rfl, hresult⟩ hrest⟩

end Outcome

namespace ControlPlane

/-- **Failed signals do not influence the lifecycle.**  The same calls are awaited one after another on two
control planes that begin with the same snapshot, whose engines make no reports during signals and end the
signals of finalizes in the same way, while those of starts, pauses and resumes fail or return
independently.  After any number `n` of calls both have answered all of them; results of one call agree on
whether it was accepted, on the error and on the snapshot, and differ in the failure of the signal at most;
and the current snapshots are the same but for times. -/
theorem lifecycle_ignores_failed_signals {first : Snapshot} {as bs : List AwaitedCall}
    (h : List.Forall₂ AwaitedCall.Alike as bs) (n : Nat) :
    ∃ p q, (idle first).awaitAll (as.take n) = some p ∧ (idle first).awaitAll (bs.take n) = some q ∧
      p.snapshot.untimed = q.snapshot.untimed ∧
      p.calls.map (·.command) = (as.take n).map (·.command) ∧
      List.Forall₂ Call.AgreesWith p.calls q.calls := by
  obtain ⟨p, hp, _, hpsnapshot, hpcalls⟩ := (atRest_idle first).awaitAll (as.take n)
  obtain ⟨q, hq, _, hqsnapshot, hqcalls⟩ := (atRest_idle first).awaitAll (bs.take n)
  obtain ⟨hafter, hanswers⟩ :=
    AwaitedCall.answers_agree (s := first) (t := first) (List.forall₂_take n h) rfl
  refine ⟨p, q, hp, hq, ?_, ?_, ?_⟩
  · rw [hpsnapshot, hqsnapshot]
    exact hafter
  · rw [hpcalls]
    exact AwaitedCall.map_command_answers first (as.take n)
  · rw [hpcalls, hqcalls]
    exact hanswers

/-- The engine refuses the start and the resume on one control plane and the pause on the other, and the
first cutover on both. -/
theorem lifecycle_ignores_failed_signals_of_refusing_engine :
    ∃ as bs : List AwaitedCall,
      as.map (fun a => (a.command, a.failure)) =
        [(.start [.str "db1.*"] [], some "refused"), (.pause, none), (.reportHistoryLost, none),
          (.resume false, some "refused"), (.finalize true, some "busy"), (.finalize true, none)] ∧
      bs.map (fun b => (b.command, b.failure)) =
        [(.start [.str "db1.*"] [], none), (.pause, some "refused"), (.reportHistoryLost, none),
          (.resume false, none), (.finalize true, some "busy"), (.finalize true, none)] ∧
      List.Forall₂ AwaitedCall.Alike as bs ∧
      ∃ p q, (idle (.fresh default)).awaitAll as = some p ∧ (idle (.fresh default)).awaitAll bs = some q ∧
        p.snapshot.untimed = q.snapshot.untimed ∧ List.Forall₂ Call.AgreesWith p.calls q.calls := by
  let once (command : Command) (failure : Option String) (now : Timestamp) : AwaitedCall :=
    ⟨command, now, now, now, failure⟩
  let as : List AwaitedCall :=
    [once (.start [.str "db1.*"] []) (some "refused") (.universal 1), once .pause none (.universal 2),
      once .reportHistoryLost none (.universal 3), once (.resume false) (some "refused") (.universal 4),
      once (.finalize true) (some "busy") (.universal 5), once (.finalize true) none (.universal 6)]
  let bs : List AwaitedCall :=
    [once (.start [.str "db1.*"] []) none (.universal 11), once .pause (some "refused") (.universal 12),
      once .reportHistoryLost none (.universal 13), once (.resume false) none (.universal 14),
      once (.finalize true) (some "busy") (.universal 15), once (.finalize true) none (.universal 16)]
  have halike : List.Forall₂ AwaitedCall.Alike as bs :=
    .cons ⟨rfl, nofun⟩ <| .cons ⟨rfl, nofun⟩ <| .cons ⟨rfl, nofun⟩ <| .cons ⟨rfl, nofun⟩ <|
      .cons ⟨rfl, fun _ => rfl⟩ <| .cons ⟨rfl, fun _ => rfl⟩ .nil
  obtain ⟨p, q, hp, hq, hsnapshot, _, hcalls⟩ := lifecycle_ignores_failed_signals halike 6
  exact ⟨as, bs, rfl, rfl, halike, p, q, hp, hq, hsnapshot, hcalls⟩

end ControlPlane

end Cutover
