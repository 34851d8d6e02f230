import Cutover.Proofs.Queue
import Cutover.Proofs.Rule

/-!
# The life of a call

Whatever else happens in a control plane, what its journal tells of one call has one of a few forms, and
the phase of the call says which (`Life`).  So a call applies its rule at most once, its signal begins at
most once and only after the rule was accepted, and a finalize completes only after its own signal has
returned.

The proof is one case for each way in which a call can go on (`Step.life`): the entries written by an
event are all about the call that goes on, so what is told of the other calls stays as it was.
-/

namespace Cutover

open Journal ControlPlane

/-- The signal that a command sends is the one that is due for its rule. -/
theorem Command.signal?_rule (command : Command) (s : Snapshot) (now : Timestamp)
    (h : (command.rule.apply s now).isAccepted = true) :
    command.rule.signal? ((command.rule.apply s now).after s) =
      command.signal? ((command.rule.apply s now).after s) := by
  cases command with
  | start included excluded =>
    -- an accepted start has set the filter
    have haccepts := Rule.accepts h
    rw [Command.rule] at haccepts ⊢
    generalize (Rule.start included excluded).apply s now = outcome at haccepts
    cases haccepts with
    | start hstate hfilter => rfl
  | pause => rfl
  | resume fromFailure => rfl
  | finalize ignoreHistoryLost => rfl
  | reportFailure reason => rfl
  | reportHistoryLost => rfl

/-! ### What is written when a rule is applied -/

section CommitNotes

variable (p : ControlPlane) (now : Timestamp) (call : CallId) (rule : Rule)

@[simp] theorem about_commitNotes_self :
    (p.commitNotes now call rule).about call =
      [.applied call rule p.snapshot now (rule.apply p.snapshot now)] := by
  rw [commitNotes, about_cons, Silent.about (silent_outcomeNotes _ _ _)]
  simp [Note.call?]

@[simp] theorem signals_commitNotes : (p.commitNotes now call rule).signals = [] := by
  have h := (silent_outcomeNotes rule p.snapshot (rule.apply p.snapshot now)).signals
  rw [signals] at h
  simp [commitNotes, signals, h]

theorem commits_commitNotes :
    (p.commitNotes now call rule).commits =
      if (rule.apply p.snapshot now).isAccepted then
        ((rule.signal? ((rule.apply p.snapshot now).after p.snapshot)).map (call, ·)).toList
      else [] := by
  have h := (silent_outcomeNotes rule p.snapshot (rule.apply p.snapshot now)).commits
  rw [commits] at h
  rw [commitNotes, commits, List.filterMap_cons, h, Note.commit?]
  split_ifs with hrule
  · cases rule.signal? ((rule.apply p.snapshot now).after p.snapshot) <;> rfl
  · rfl

theorem concerns_commitNotes : (p.commitNotes now call rule).Concerns call :=
  concerns_cons.mpr ⟨Or.inr rfl, Silent.concerns (silent_outcomeNotes _ _ _)⟩

end CommitNotes

/-! ### The forms of a life -/

/-- What is told of a call, by the call as it stands.  A call that was not made yet has no phase. -/
inductive Life (call : CallId) : Option Call → Journal → Prop
  | unmade : Life call none []
  | made {command : Command} : Life call (some ⟨command, .made⟩) [.called call command]
  | rejected {command : Command} {before : Snapshot} {now : Timestamp} {outcome : Outcome}
      {rejection : Rejection} {result : CommandResult}
      (hrule : outcome = command.rule.apply before now) (hout : outcome = .rejected rejection)
      (hresult : result =
        { command := command.name, snapshot := before, error := some rejection }) :
    Life call (some ⟨command, .answered result⟩)
      [.called call command, .applied call command.rule before now outcome, .answered call result]
  | reported {command : Command} {before : Snapshot} {now : Timestamp} {outcome : Outcome}
      {result : CommandResult}
      (hrule : outcome = command.rule.apply before now) (hout : outcome.isAccepted = true)
      (hsignal : command.signal? (outcome.after before) = none)
      (hresult : result = { command := command.name, snapshot := outcome.after before }) :
    Life call (some ⟨command, .answered result⟩)
      [.called call command, .applied call command.rule before now outcome, .answered call result]
  | waiting {command : Command} {before : Snapshot} {now : Timestamp} {outcome : Outcome}
      {signal : Signal} {turn : Nat}
      (hrule : outcome = command.rule.apply before now) (hout : outcome.isAccepted = true)
      (hsignal : command.signal? (outcome.after before) = some signal) :
    Life call (some ⟨command, .waiting turn (outcome.after before)⟩)
      [.called call command, .applied call command.rule before now outcome]
  | signalling {command : Command} {before : Snapshot} {now : Timestamp} {outcome : Outcome}
      {signal : Signal} {turn : Nat}
      (hrule : outcome = command.rule.apply before now) (hout : outcome.isAccepted = true)
      (hsignal : command.signal? (outcome.after before) = some signal) :
    Life call (some ⟨command, .signalling turn (outcome.after before)⟩)
      [.called call command, .applied call command.rule before now outcome, .began call signal]
  | failed {command : Command} {before : Snapshot} {now : Timestamp} {outcome : Outcome}
      {signal : Signal} {cause : String} {result : CommandResult}
      (hrule : outcome = command.rule.apply before now) (hout : outcome.isAccepted = true)
      (hsignal : command.signal? (outcome.after before) = some signal)
      (hresult : result =
        { command := command.name, snapshot := outcome.after before, signalError := some cause }) :
    Life call (some ⟨command, .answered result⟩)
      [.called call command, .applied call command.rule before now outcome, .began call signal,
        .ended call (some cause), .answered call result]
  | delivered {command : Command} {before : Snapshot} {now : Timestamp} {outcome : Outcome}
      {signal : Signal} {result : CommandResult}
      (hrule : outcome = command.rule.apply before now) (hout : outcome.isAccepted = true)
      (hsignal : command.signal? (outcome.after before) = some signal)
      (hfinal : command.isFinalize = false)
      (hresult : result = { command := command.name, snapshot := outcome.after before }) :
    Life call (some ⟨command, .answered result⟩)
      [.called call command, .applied call command.rule before now outcome, .began call signal,
        .ended call none, .answered call result]
  | completed {command : Command} {before current : Snapshot} {now later : Timestamp}
      {outcome final : Outcome} {signal : Signal} {result : CommandResult}
      (hrule : outcome = command.rule.apply before now) (hout : outcome.isAccepted = true)
      (hsignal : command.signal? (outcome.after before) = some signal)
      (hfinal : command.isFinalize = true)
      (hlast : final = Rule.completeFinalize.apply current later)
      (hresult : result =
        { command := command.name, snapshot := final.after current,
          superseded := final.rejection? }) :
    Life call (some ⟨command, .answered result⟩)
      [.called call command, .applied call command.rule before now outcome, .began call signal,
        .ended call none, .applied call .completeFinalize current later final,
        .answered call result]
  | withdrawn {command : Command} :
    Life call (some ⟨command, .cancelled⟩) [.called call command, .cancelled call]
  | left {command : Command} {before : Snapshot} {now : Timestamp} {outcome : Outcome}
      {signal : Signal}
      (hrule : outcome = command.rule.apply before now) (hout : outcome.isAccepted = true)
      (hsignal : command.signal? (outcome.after before) = some signal) :
    Life call (some ⟨command, .cancelled⟩)
      [.called call command, .applied call command.rule before now outcome, .cancelled call]
  | interrupted {command : Command} {before : Snapshot} {now : Timestamp} {outcome : Outcome}
      {signal : Signal}
      (hrule : outcome = command.rule.apply before now) (hout : outcome.isAccepted = true)
      (hsignal : command.signal? (outcome.after before) = some signal) :
    Life call (some ⟨command, .cancelled⟩)
      [.called call command, .applied call command.rule before now outcome, .began call signal,
        .cancelled call]

/-- Nothing is told of a call that was not made. -/
theorem Life.eq_nil {call : CallId} {told : Journal} (h : Life call none told) : told = [] := by
  cases h
  rfl

namespace ControlPlane

/-- What is told of every call fits the call as it stands. -/
def Lives (p : ControlPlane) : Prop :=
  ∀ call, Life call p.calls[call]? (p.journal.about call)

variable {p q : ControlPlane} {now : Timestamp} {event : Event} {call : CallId} {command : Command}

theorem Lives.life (hp : p.Lives) {phase : Phase} (hcall : p.calls[call]? = some ⟨command, phase⟩) :
    Life call (some ⟨command, phase⟩) (p.journal.about call) :=
  hcall ▸ hp call

/-- A call goes on, and what is written is about this call alone. -/
theorem Lives.of_advance {phase later : Phase} {notes : Journal} (hp : p.Lives)
    (hcall : p.calls[call]? = some ⟨command, phase⟩)
    (hcalls : q.calls = (p.setPhase call later).calls) (hjournal : q.journal = p.journal ++ notes)
    (hnotes : notes.Concerns call)
    (hlife : ∀ told, Life call (some ⟨command, phase⟩) told →
      Life call (some ⟨command, later⟩) (told ++ notes.about call)) : q.Lives := by
  intro other
  rw [hcalls, hjournal, about_append, getElem?_setPhase]
  by_cases hother : call = other
  · subst hother
    rw [if_pos rfl, hcall]
    exact hlife _ (hp.life hcall)
  · rw [if_neg hother, hnotes.about_other hother, List.append_nil]
    exact hp other

/-- A new call is made, and nothing is told of the others. -/
theorem Lives.of_make (hp : p.Lives) (command : Command)
    (hcalls : q.calls = p.calls ++ [⟨command, .made⟩])
    (hjournal : q.journal = p.journal ++ [.called p.calls.length command]) : q.Lives := by
  intro other
  rw [hcalls, hjournal, about_append]
  have hother := hp other
  by_cases h : p.calls.length = other
  · subst h
    rw [List.getElem?_eq_none (Nat.le_refl _)] at hother
    rw [List.getElem?_concat_length, hother.eq_nil]
    simpa [about_cons, Note.call?] using Life.made
  · -- the others are where they were, and nothing is told of them
    have hnotes : Concerns [.called p.calls.length command] p.calls.length := by simp [Note.call?]
    rw [hnotes.about_other h, List.append_nil]
    rcases Nat.lt_or_ge other p.calls.length with hlt | hge
    · rwa [List.getElem?_append_left hlt]
    · rw [List.getElem?_eq_none hge] at hother
      rwa [List.getElem?_eq_none (by simp; omega)]

/-- Every event leaves what is told of the calls in one of the forms of a life. -/
theorem Step.lives (hstep : Step p now event q) (hqueued : p.Queued) (hp : p.Lives) : q.Lives := by
  cases hstep with
  | make command => exact hp.of_make command rfl rfl
  | reject hcall hrule hresult =>
    refine hp.of_advance hcall rfl rfl (by simp [concerns_commitNotes, Note.call?]) ?_
    intro told hlife
    cases hlife
    simpa [about_cons, Note.call?] using Life.rejected rfl hrule hresult
  | report hcall hrule hnext hsignal hresult =>
    subst hnext
    refine hp.of_advance hcall rfl rfl ?_ ?_
    · simp [concerns_commitNotes, (silent_reportNotes _ _ _).concerns, Note.call?]
    · intro told hlife
      cases hlife
      simpa [about_cons, Note.call?, (silent_reportNotes _ _ _).about] using
        Life.reported rfl hrule hsignal hresult
  | enter hcall hrule hnext hsignal hcome =>
    subst hnext
    refine hp.of_advance hcall rfl rfl (by simp [concerns_commitNotes, Note.call?]) ?_
    intro told hlife
    cases hlife
    simpa [about_cons, Note.call?] using Life.signalling rfl hrule hsignal
  | queue hcall hrule hnext hsignal hcome =>
    subst hnext
    refine hp.of_advance hcall rfl rfl (concerns_commitNotes _ _ _ _) ?_
    intro told hlife
    cases hlife
    simpa [about_cons, Note.call?] using Life.waiting rfl hrule hsignal
  | wake hcall hturn hcome =>
    -- the signal in the queue is the one that was due when the command was accepted
    obtain ⟨signal, hheld, hsignal⟩ := hqueued.holds hcall rfl
    obtain rfl := Option.some.inj (hturn.symm.trans hheld)
    refine hp.of_advance hcall rfl rfl (by simp [Note.call?]) ?_
    intro told hlife
    cases hlife with
    | waiting hrule hout => simpa [about_cons, Note.call?] using Life.signalling hrule hout hsignal
  | fail hcall hresult =>
    refine hp.of_advance hcall rfl rfl (by simp [failureNotes, Note.call?]) ?_
    intro told hlife
    cases hlife with
    | signalling hrule hout hsignal =>
      simpa [failureNotes, about_cons, Note.call?] using Life.failed hrule hout hsignal hresult
  | deliver hcall hfinal hresult =>
    refine hp.of_advance hcall rfl rfl (by simp [Note.call?]) ?_
    intro told hlife
    cases hlife with
    | signalling hrule hout hsignal =>
      simpa [about_cons, Note.call?] using Life.delivered hrule hout hsignal hfinal hresult
  | complete hcall hfinal hnext hresult =>
    subst hnext
    refine hp.of_advance hcall rfl rfl (by simp [concerns_commitNotes, Note.call?]) ?_
    intro told hlife
    cases hlife with
    | signalling hrule hout hsignal =>
      simpa [about_cons, Note.call?] using
        Life.completed hrule hout hsignal hfinal rfl hresult
  | withdraw hcall =>
    refine hp.of_advance hcall rfl rfl (by simp [Note.call?]) ?_
    intro told hlife
    cases hlife
    simpa [about_cons, Note.call?] using Life.withdrawn
  | miss hcall hcome =>
    refine hp.of_advance hcall rfl rfl (by simp [Note.call?]) ?_
    intro told hlife
    cases hlife with
    | waiting hrule hout hsignal =>
      simpa [about_cons, Note.call?] using Life.left hrule hout hsignal
  | leave hcall hcome =>
    refine hp.of_advance hcall rfl rfl (by simp [Note.call?]) ?_
    intro told hlife
    cases hlife with
    | waiting hrule hout hsignal =>
      simpa [about_cons, Note.call?] using Life.left hrule hout hsignal
  | interrupt hcall =>
    refine hp.of_advance hcall rfl rfl (by simp [Note.call?]) ?_
    intro told hlife
    cases hlife with
    | signalling hrule hout hsignal =>
      simpa [about_cons, Note.call?] using Life.interrupted hrule hout hsignal
  | handOver hturn hstatus hcome => exact hp

/-- What is told of the calls has one of the forms of a life in every state that can be reached. -/
theorem Reachable.lives {first : Snapshot} (h : Reachable first p) : p.Lives :=
  h.induction (fun _ => .unmade) fun _ _ _ _ hreach hp hstep => hstep.lives hreach.queued hp

end ControlPlane

/-! ### What a life tells of its signal -/

section Signal

variable {call : CallId} {command : Command} {phase : Phase} {told : Journal}

/-- A signal ends only after it has begun. -/
theorem Life.hasBegun_of_hasEnded {c : Option Call} (h : Life call c told)
    (hended : told.hasEnded call = true) : told.hasBegun call = true := by
  cases h <;> simp_all [hasEnded, hasBegun]

/-- Once a call whose command was accepted is done, its signal is over. -/
theorem Life.isOver_of_isDone (h : Life call (some ⟨command, phase⟩) told)
    (hdone : phase.isDone = true) (hcommit : told.commits ≠ []) : told.isOver call = true := by
  cases h with
  | rejected hrule hout =>
    subst hout
    simp [commits, Note.commit?] at hcommit
  | reported hrule hout hsignal =>
    subst hrule
    simp [commits, Note.commit?, command.signal?_rule _ _ hout, hsignal] at hcommit
  | failed => simp [isOver, hasEnded]
  | delivered => simp [isOver, hasEnded]
  | completed => simp [isOver, hasEnded]
  | withdrawn => simp [commits, Note.commit?] at hcommit
  | left => simp [isOver, isCancelled]
  | interrupted => simp [isOver, isCancelled]
  | made => cases hdone
  | waiting => cases hdone
  | signalling => cases hdone

/-- A signal is in progress if the phase of its call says so. -/
theorem Life.isInProgress_iff (h : Life call (some ⟨command, phase⟩) told) :
    told.isInProgress call = true ↔ ∃ turn accepted, phase = .signalling turn accepted := by
  cases h <;> simp [isInProgress, isOver, hasBegun, hasEnded, isCancelled]

/-- The signal of a call that waits has not begun. -/
theorem Life.not_hasBegun {c : Option Call} (h : Life call c told)
    (hphase : ∀ c' ∈ c, c'.phase = .made ∨ ∃ turn accepted, c'.phase = .waiting turn accepted) :
    told.hasBegun call = false := by
  cases h <;> simp_all [hasBegun]

/-- The signal of a call whose command was rejected never begins. -/
theorem Life.not_hasBegun_of_rejected {c : Option Call} (h : Life call c told) {rule : Rule}
    {before : Snapshot} {now : Timestamp} {outcome : Outcome}
    (hmem : .applied call rule before now outcome ∈ told) (hrule : rule ≠ .completeFinalize)
    (hout : outcome.isAccepted = false) : told.hasBegun call = false := by
  cases h <;> simp_all [hasBegun]

end Signal

end Cutover
