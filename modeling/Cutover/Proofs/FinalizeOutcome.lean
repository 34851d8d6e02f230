import Cutover.Proofs.HistoryPath
import Cutover.Proofs.SupersededFinalize
import Cutover.Protocol.Response

/-!
# What the result of a finalize tells

A finalize that was answered was rejected, or its signal failed, or it is superseded, or it is clean, and
never two of these at once.  Each tells what the call has done (`TruthfulFinalize`), and each has a wire
form of its own.  The clean results of a run are as many as the records of a finalized migration
(`Step.countP_hasFinalized`), of which there is at most one.  Main statement: `finalize_outcomes_are_truthful`.
-/

namespace Cutover

open Journal

/-! ### Finalized records -/

/-- Whether a record leads to the finalized state. -/
def Record.finalizes (record : Record) : Bool :=
  record.target = .finalized

/-- The records that an outcome adds to a snapshot. -/
def Outcome.records (before : Snapshot) (outcome : Outcome) : List Record :=
  (outcome.after before).history.drop before.history.length

/-- The records that were committed for a call. -/
def Journal.recordsOf (journal : Journal) (call : CallId) : List Record :=
  (journal.applicationsOf call).flatMap fun a => a.outcome.records a.before

section Rule

variable {s : Snapshot} {now : Timestamp} {rule : Rule} {outcome : Outcome}

theorem records_of_history_eq (h : (outcome.after s).history = s.history) : outcome.records s = [] := by
  rw [Outcome.records, h, List.drop_length]

/-- A change of state adds its record. -/
theorem records_of_moveTo {command : String} {target : State} {detail : Fields}
    (h : (outcome.after s).history = (s.moveTo command target detail now).history) :
    outcome.records s = [⟨command, s.state, target, now, detail⟩] := by
  rw [Outcome.records, h, Snapshot.history_moveTo, List.drop_left]

/-- No rule but the completion of a cutover adds a finalized record. -/
theorem Accepts.not_finalized (h : Accepts s now rule outcome) (hrule : rule ≠ .completeFinalize) :
    ∀ record ∈ outcome.records s, record.target ≠ .finalized := by
  cases h with
  | complete => exact absurd rfl hrule
  | retry | loseHistory | loseNothing =>
    rw [records_of_history_eq rfl]
    nofun
  | _ =>
    rw [records_of_moveTo rfl, List.forall_mem_singleton]
    nofun

theorem Rule.not_finalized (hrule : rule ≠ .completeFinalize) :
    ∀ record ∈ (rule.apply s now).records s, record.target ≠ .finalized := by
  cases haccepted : (rule.apply s now).isAccepted with
  | true => exact (Rule.accepts haccepted).not_finalized hrule
  | false =>
    rw [records_of_history_eq (by rw [Outcome.after_of_not_accepted s haccepted])]
    nofun

theorem Rule.countP_finalizes (hrule : rule ≠ .completeFinalize) :
    ((rule.apply s now).after s).history.countP (·.finalizes) = s.history.countP (·.finalizes) := by
  -- the history goes on by the records that the rule adds
  have hhistory : s.history ++ (rule.apply s now).records s = ((rule.apply s now).after s).history :=
    List.prefix_iff_eq_append.mp (rule.history_prefix s now)
  rw [← hhistory, List.countP_append, Nat.add_eq_left, List.countP_eq_zero]
  exact fun record hmem => by simpa [Record.finalizes] using not_finalized hrule record hmem

/-- The completion of a cutover is rejected, unless the migration is finalizing; then it adds the finalized
record. -/
theorem Rule.completeFinalize_cases (s : Snapshot) (now : Timestamp) :
    (∃ rejection, completeFinalize.apply s now = .rejected rejection ∧ s.state ≠ .finalizing) ∨
      completeFinalize.apply s now = .moved (s.moveTo "finalize" .finalized [] now) := by
  have hstate := @isAccepted_completeFinalize s now
  cases haccepted : (completeFinalize.apply s now).isAccepted with
  | true =>
    have haccepts := Rule.accepts haccepted
    generalize completeFinalize.apply s now = outcome at haccepts
    cases haccepts
    exact Or.inr rfl
  | false =>
    rw [haccepted] at hstate
    cases houtcome : completeFinalize.apply s now with
    | rejected rejection => exact Or.inl ⟨rejection, rfl, by simpa using hstate⟩
    | _ =>
      rw [houtcome] at haccepted
      cases haccepted

end Rule

/-- A history has at most one finalized record, as nothing leads on from there. -/
theorem Path.countP_finalizes_le {history : List Record} {state : State} (h : Path history state) :
    history.countP (·.finalizes) ≤ 1 := by
  rcases List.eq_nil_or_concat history with rfl | ⟨earlier, last, rfl⟩
  · exact Nat.zero_le 1
  · rw [List.concat_eq_append] at h ⊢
    have hearlier : earlier.countP (·.finalizes) = 0 := by
      rw [List.countP_eq_zero]
      intro record hmem hfinal
      exact h.dropLast_target (by rwa [List.dropLast_concat]) (of_decide_eq_true hfinal)
    rw [List.countP_append, hearlier, Nat.zero_add]
    exact List.countP_le_length

/-! ### What a finalize has done -/

namespace CommandResult

/-- Whether a command was accepted, its signal returned, and nothing has superseded it. -/
def isClean (result : CommandResult) : Bool :=
  result.error.isNone && result.signalError.isNone && result.superseded.isNone

/-- The wire form of a result. -/
def wire (result : CommandResult) : Json :=
  (CommandResponse.ofResult result).wire

end CommandResult

/-- The result of a finalize tells what the call has done. -/
structure TruthfulFinalize (first : Snapshot) (journal : Journal) (call : CallId)
    (ignoreHistoryLost : Bool) (result : CommandResult) : Prop where
  /-- It tells one thing. -/
  exclusive : [result.error.isSome, result.signalError.isSome, result.superseded.isSome,
    result.isClean].count true = 1
  /-- A finalize with an error was not signalled, and no rule was accepted for it. -/
  error : ∀ rejection, result.error = some rejection →
    journal.hasBegun call = false ∧ (∀ a ∈ journal.applicationsOf call, a.outcome.isAccepted = false) ∧
      result.wire = .obj [("ok", .bool false), ("error", .str rejection.message),
        ("errorCode", .str rejection.failure.code)]
  /-- The signal of a finalize with a signal error has failed, and the call committed no finalized
  record. -/
  signalError : ∀ cause, result.signalError = some cause →
    .began call (.finalize ignoreHistoryLost) ∈ journal ∧ .ended call (some cause) ∈ journal ∧
      (∀ record ∈ journal.recordsOf call, record.target ≠ .finalized) ∧
      result.wire = .obj [("ok", .bool true),
        ("signalError", .str ("Failed to signal apply engine for finalize: " ++ cause))]
  /-- The signal of a superseded finalize has returned, but the migration did not wait for the completion
  any more, as the snapshot shows that was current then. -/
  superseded : ∀ rejection, result.superseded = some rejection →
    .began call (.finalize ignoreHistoryLost) ∈ journal ∧
      (∃ (before : Journal) (now : Timestamp), before ++ [.ended call none,
          .applied call .completeFinalize result.snapshot now (.rejected rejection)] <+: journal ∧
        result.snapshot = first.afterAll before.applications) ∧
      result.snapshot.state ≠ .finalizing ∧
      (∀ record ∈ journal.recordsOf call, record.target ≠ .finalized) ∧
      result.wire = .obj [("ok", .bool true), ("superseded", .str rejection.message)]
  /-- The signal of a clean finalize has returned, and the call committed the finalized record that its
  snapshot shows. -/
  clean : result.isClean = true →
    .began call (.finalize ignoreHistoryLost) ∈ journal ∧ .ended call none ∈ journal ∧
      (∃ record ∈ journal.recordsOf call, record.target = .finalized ∧
        result.snapshot.history.getLast? = some record) ∧
      result.snapshot.state = .finalized ∧
      result.wire = .obj [("ok", .bool true)]

/-! ### Every result tells what the finalize has done -/

namespace ControlPlane

variable {p q : ControlPlane} {first : Snapshot} {start now : Timestamp} {event : Event} {call : CallId}
  {ignoreHistoryLost : Bool} {result : CommandResult}

/-- The completion of a finalize is tried on the snapshot that is current, as soon as its own signal has
returned. -/
theorem Reachable.exists_before (h : Reachable first p) {current : Snapshot} {outcome : Outcome}
    (hmem : .applied call .completeFinalize current now outcome ∈ p.journal) :
    ∃ before : Journal,
      before ++ [.ended call none, .applied call .completeFinalize current now outcome] <+:
        p.journal ∧ current = first.afterAll before.applications := by
  obtain ⟨earlier, later, hsplit⟩ := List.append_of_mem hmem
  have hwritten : earlier ++ [.applied call .completeFinalize current now outcome] <+: p.journal :=
    ⟨later, by rw [hsplit, List.append_assoc]; rfl⟩
  obtain ⟨hcurrent, _, _, hreturned⟩ := h.linear.inTurn _ _ hwritten _ _ _ _ _ rfl
  obtain ⟨before, rfl⟩ := hreturned rfl
  refine ⟨before, by simpa using hwritten, ?_⟩
  simpa [applications] using hcurrent

/-- The result of a finalize that was answered tells what it has done. -/
theorem Reachable.truthfulFinalize (h : Reachable first p)
    (hcall : p.calls[call]? = some ⟨.finalize ignoreHistoryLost, .answered result⟩) :
    TruthfulFinalize first p.journal call ignoreHistoryLost result := by
  have hlife := h.lives.life hcall
  have hmem : ∀ note : Note, note.call? = some call → note ∈ p.journal.about call → note ∈ p.journal :=
    fun note hnote => (mem_about hnote).mp
  have hbegun : (p.journal.about call).hasBegun call = p.journal.hasBegun call := hasBegun_about
  have happlied : p.journal.applicationsOf call = (p.journal.about call).applications := applicationsOf_eq
  generalize p.journal.about call = told at hlife hmem hbegun happlied
  cases hlife with
  | rejected hrule hout hresult =>
    subst hresult
    refine ⟨rfl, ?_, by simp, by simp, by simp [CommandResult.isClean]⟩
    rintro _ ⟨⟩
    refine ⟨hbegun.symm, ?_, rfl⟩
    rw [happlied]
    simp [applications, hout]
  | reported hrule hout hsignal => cases hsignal
  | failed hrule hout hsignal hresult =>
    subst hresult hrule
    obtain rfl := Option.some.inj hsignal
    refine ⟨rfl, by simp, ?_, by simp, by simp [CommandResult.isClean]⟩
    rintro _ ⟨⟩
    refine ⟨hmem _ rfl (by simp), hmem _ rfl (by simp), ?_, rfl⟩
    rw [recordsOf, happlied]
    simpa [applications] using Rule.not_finalized (Command.rule_ne _)
  | delivered hrule hout hsignal hfinal => cases hfinal
  | @completed _ before current now later _ _ _ _ hrule hout hsignal hfinal hlast hresult =>
    subst hresult hrule hlast
    obtain rfl := Option.some.inj hsignal
    have hbegan := hmem (.began call (.finalize ignoreHistoryLost)) rfl (by simp)
    have hended := hmem (.ended call none) rfl (by simp)
    have hcompleted := hmem (.applied call .completeFinalize current later
      (Rule.completeFinalize.apply current later)) rfl (by simp)
    -- the records are those of the acceptance, and those of the completion
    have hrecords : p.journal.recordsOf call =
        ((Command.finalize ignoreHistoryLost).rule.apply before now).records before ++
          (Rule.completeFinalize.apply current later).records current := by
      rw [recordsOf, happlied]
      simp [applications]
    rcases Rule.completeFinalize_cases current later with ⟨rejection, hlast, hstate⟩ | hlast
    · have hempty : (Outcome.rejected rejection).records current = [] := records_of_history_eq rfl
      rw [hlast, hempty, List.append_nil] at hrecords
      rw [hlast] at hcompleted ⊢
      refine ⟨rfl, by simp, by simp, ?_, by simp [CommandResult.isClean, Outcome.rejection?]⟩
      rintro _ ⟨⟩
      obtain ⟨waited, hwritten, hcurrent⟩ := h.exists_before hcompleted
      refine ⟨hbegan, ⟨waited, later, hwritten, hcurrent⟩, hstate, ?_, rfl⟩
      rw [hrecords]
      exact Rule.not_finalized (Command.rule_ne _)
    · have hrecord : (Outcome.moved (current.moveTo "finalize" .finalized [] later)).records current =
          [⟨"finalize", current.state, .finalized, later, []⟩] := records_of_moveTo rfl
      rw [hlast, hrecord] at hrecords
      rw [hlast]
      refine ⟨rfl, by simp, by simp, by simp [Outcome.rejection?],
        fun _ => ⟨hbegan, hended, ?_, rfl, rfl⟩⟩
      rw [hrecords]
      exact ⟨_, List.mem_append_right _ (List.mem_singleton_self _), rfl, List.getLast?_concat⟩

end ControlPlane

/-! ### Clean results and finalized records -/

/-- Whether a call is a finalize with a clean result. -/
def Call.hasFinalized (c : Call) : Bool :=
  match c.phase with
  | .answered result => c.command.isFinalize && result.isClean
  | _ => false

@[simp] theorem Call.hasFinalized_answered {command : Command} {result : CommandResult} :
    Call.hasFinalized ⟨command, .answered result⟩ = (command.isFinalize && result.isClean) := rfl

namespace ControlPlane

variable {p q : ControlPlane} {start now : Timestamp} {event : Event} {call : CallId} {command : Command}

/-- A call that goes on counts if it has finalized then. -/
theorem countP_setPhase {phase later : Phase} (hcall : p.calls[call]? = some ⟨command, phase⟩)
    (hphase : Call.hasFinalized ⟨command, phase⟩ = false) :
    (p.setPhase call later).calls.countP (·.hasFinalized) =
      p.calls.countP (·.hasFinalized) + if Call.hasFinalized ⟨command, later⟩ then 1 else 0 := by
  obtain ⟨hlt, hget⟩ := List.getElem?_eq_some_iff.mp hcall
  have hset : (p.setPhase call later).calls = p.calls.set call ⟨command, later⟩ := by
    rw [setPhase, List.modify_eq_set_getElem?, hcall]
    rfl
  rw [hset, List.countP_set hlt, hget, hphase]
  rfl

/-- The clean results are as many as the finalized records, if they were so before an event. -/
theorem Step.countP_hasFinalized (hstep : Step p now event q)
    (hp : p.calls.countP (·.hasFinalized) = p.snapshot.history.countP (·.finalizes)) :
    q.calls.countP (·.hasFinalized) = q.snapshot.history.countP (·.finalizes) := by
  -- a call that runs comes to no clean result of a finalize, and its rule adds no finalized record
  have hrun {call : CallId} {command : Command} {later : Phase}
      (hcall : p.calls[call]? = some ⟨command, .made⟩)
      (hlater : Call.hasFinalized ⟨command, later⟩ = false) :
      (p.setPhase call later).calls.countP (·.hasFinalized) =
        ((command.rule.apply p.snapshot now).after p.snapshot).history.countP (·.finalizes) := by
    rw [countP_setPhase hcall rfl, hlater, Rule.countP_finalizes command.rule_ne, ← hp]
    rfl
  cases hstep with
  | make command => simpa [Call.hasFinalized] using hp
  | reject hcall hrule hresult =>
    exact (hrun hcall (by simp [hresult, CommandResult.isClean])).trans (by rw [hrule]; rfl)
  | @report call command next result hcall hrule hnext hsignal hresult =>
    have hfinal : command.isFinalize = false := by
      cases command with
      | finalize => cases hsignal
      | _ => rfl
    exact hnext ▸ hrun hcall (by simp [hfinal])
  | enter hcall hrule hnext => exact hnext ▸ hrun hcall rfl
  | queue hcall hrule hnext => exact hnext ▸ hrun hcall rfl
  | fail hcall hresult =>
    refine (countP_setPhase hcall rfl).trans ?_
    rw [if_neg (by simp [hresult, CommandResult.isClean])]
    exact hp
  | deliver hcall hfinal hresult =>
    refine (countP_setPhase hcall rfl).trans ?_
    rw [if_neg (by simp [hfinal])]
    exact hp
  | @complete call command turn accepted next result hcall hfinal hnext hresult =>
    have hclean : Call.hasFinalized ⟨command, .answered result⟩ =
        (Rule.completeFinalize.apply p.snapshot now).isAccepted := by
      rw [Call.hasFinalized_answered, hfinal, hresult]
      cases Rule.completeFinalize.apply p.snapshot now <;> rfl
    refine (countP_setPhase hcall rfl).trans ?_
    rw [hclean, hp, hnext]
    rcases Rule.completeFinalize_cases p.snapshot now with ⟨rejection, hlast, _⟩ | hlast
    · rw [hlast]
      rfl
    · -- the clean result and the finalized record come together
      rw [hlast, Outcome.after, Snapshot.history_moveTo, List.countP_append]
      rfl
  | wake hcall | withdraw hcall | miss hcall | leave hcall | interrupt hcall =>
    exact (countP_setPhase hcall rfl).trans hp
  | handOver => exact hp

/-- **The results of finalizes are exclusive and tell the truth**, in every run of a migration that begins
fresh.  The result of a finalize that was answered tells what the call has done.  The finalized records
are as many as the clean results, and there is at most one. -/
theorem finalize_outcomes_are_truthful (h : Reachable (.fresh start) p) :
    (∀ (call : CallId) (ignoreHistoryLost : Bool) (result : CommandResult),
      p.calls[call]? = some ⟨.finalize ignoreHistoryLost, .answered result⟩ →
      TruthfulFinalize (.fresh start) p.journal call ignoreHistoryLost result) ∧
    p.snapshot.history.countP (·.finalizes) = p.calls.countP (·.hasFinalized) ∧
    p.snapshot.history.countP (·.finalizes) ≤ 1 := by
  have hcount : p.calls.countP (·.hasFinalized) = p.snapshot.history.countP (·.finalizes) :=
    h.induction (motive := fun p =>
        p.calls.countP (·.hasFinalized) = p.snapshot.history.countP (·.finalizes)) rfl
      fun _ _ _ _ _ hp hstep => hstep.countP_hasFinalized hp
  exact ⟨fun _ _ _ hcall => h.truthfulFinalize hcall, hcount.symm, h.path.countP_finalizes_le⟩

/-- The cutover is refused, retried and asked for twice more while its signal is in progress.  One of
these calls is superseded, the other cancelled, and a last one is rejected. -/
theorem finalize_outcomes_are_truthful_of_retried_cutover :
    ∃ p, (idle (.fresh default)).runAll (atOnce default
        [.make (.start [] []), .run 0, .finish 0 none,
          .make (.finalize false), .run 1, .finish 1 (some "refused"),
          .make (.finalize false), .run 2, .make (.finalize true), .run 3, .make (.finalize false), .run 4,
          .cancel 4, .finish 2 none, .wake 3, .finish 3 none, .make (.finalize false), .run 5]) = some p ∧
      ((∃ failed, p.calls[1]? = some ⟨.finalize false, .answered failed⟩ ∧
          failed.signalError = some "refused") ∧
        (∃ done, p.calls[2]? = some ⟨.finalize false, .answered done⟩ ∧ done.isClean = true) ∧
        (∃ late, p.calls[3]? = some ⟨.finalize true, .answered late⟩ ∧ late.superseded.isSome = true) ∧
        ∃ rejected, p.calls[5]? = some ⟨.finalize false, .answered rejected⟩ ∧
          rejected.error.isSome = true) ∧
      .ended 1 (some "refused") ∈ p.journal ∧
        (∃ record ∈ p.journal.recordsOf 2, record.target = .finalized) ∧
        (∀ record ∈ p.journal.recordsOf 3, record.target ≠ .finalized) ∧
        p.journal.hasBegun 5 = false ∧ p.snapshot.history.countP (·.finalizes) = 1 := by
  refine exists_run_and ?_ ⟨_, rfl, ⟨_, rfl, rfl⟩, ⟨_, rfl, rfl⟩, ⟨_, rfl, rfl⟩, ⟨_, rfl, rfl⟩⟩
  rintro p hrun ⟨⟨_, hfailed, hcause⟩, ⟨_, hdone, hclean⟩, ⟨_, hlate, hsuperseded⟩, ⟨_, hrejected, herror⟩⟩
  obtain ⟨htruthful, hcount, hle⟩ := finalize_outcomes_are_truthful ⟨_, hrun⟩
  obtain ⟨_, hended, _⟩ := (htruthful _ _ _ hfailed).signalError _ hcause
  obtain ⟨_, _, ⟨record, hmem, htarget, _⟩, _⟩ := (htruthful _ _ _ hdone).clean hclean
  obtain ⟨rejection, hrejection⟩ := Option.isSome_iff_exists.mp hsuperseded
  obtain ⟨_, _, _, hnone, _⟩ := (htruthful _ _ _ hlate).superseded _ hrejection
  obtain ⟨reason, hreason⟩ := Option.isSome_iff_exists.mp herror
  obtain ⟨hbegun, _⟩ := (htruthful _ _ _ hrejected).error _ hreason
  -- one call is clean, so there is a finalized record
  have hpos : 0 < p.calls.countP (·.hasFinalized) :=
    List.countP_pos_iff.mpr ⟨_, List.mem_of_getElem? hdone, hclean⟩
  exact ⟨hended, ⟨record, hmem, htarget⟩, hnone, hbegun, le_antisymm hle (hcount ▸ hpos)⟩

end ControlPlane

end Cutover
