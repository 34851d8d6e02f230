import Cutover.Proofs.CallLife

/-!
# Calls as one sequence of rules

Whatever calls overlap, the snapshot is what the rules give when they are applied one after another, in the
order in which the journal tells of them: each is applied to the snapshot to which those before it have
led, and between the making and the return of its own call (`AppliedInTurn`).  A call that runs applies its
rule once, and a finalize completes once more if it was accepted and its own signal returned.  Main
statement: `calls_linearize`.

That a rule is applied to the current snapshot is kept event by event (`Step.linear`); which rules are
applied for a call, and what its result says of them, is read off the life of the call
(`Life.rules`, `Life.speaksOf`).
-/

namespace Cutover

open Journal

/-- The snapshot to which rules lead that are applied one after another.  A rule that rejects the change
keeps the snapshot. -/
def Snapshot.afterAll (s : Snapshot) (applications : List Application) : Snapshot :=
  applications.foldl (fun s a => (a.rule.apply s a.now).after s) s

/-- A result says what became of the rules that were applied for its call: of the only one, or of the
second if a finalize went on to complete. -/
def CommandResult.SpeaksOf (result : CommandResult) : List Application → Prop
  | [a] => result.error = a.outcome.rejection? ∧ result.superseded = none ∧
      result.snapshot = a.outcome.after a.before
  | [a, b] => a.outcome.isAccepted = true ∧ result.error = none ∧
      result.superseded = b.outcome.rejection? ∧ result.snapshot = b.outcome.after b.before
  | _ => False

/-- A call begins with the rule of its command, never with the completion of a finalize. -/
theorem Command.rule_ne (command : Command) : command.rule ≠ .completeFinalize := by
  cases command <;> simp [Command.rule]

namespace Event

/-- Whether a call runs. -/
def isRunOf (call : CallId) : Event → Bool
  | .run other => other = call
  | _ => false

/-- Whether the signal of a call returns. -/
def isReturnOf (call : CallId) : Event → Bool
  | .finish other none => other = call
  | _ => false

end Event

namespace Note

/-- Whether an entry tells of a rule of a call. -/
def applies (call : CallId) : Note → Bool
  | .applied other .. => other = call
  | _ => false

/-- Whether an entry tells of the return of the signal of a call. -/
def returns (call : CallId) : Note → Bool
  | .ended other none => other = call
  | _ => false

theorem call?_of_applies {note : Note} {call : CallId} (h : note.applies call = true) :
    note.call? = some call := by
  cases note with
  | applied => exact congrArg some (of_decide_eq_true h)
  | _ => cases h

theorem call?_of_returns {note : Note} {call : CallId} (h : note.returns call = true) :
    note.call? = some call := by
  cases note with
  | ended other failure =>
    cases failure with
    | none => exact congrArg some (of_decide_eq_true h)
    | some cause => cases h
  | _ => cases h

end Note

namespace Journal

/-- The rules that were applied for a call. -/
def applicationsOf (journal : Journal) (call : CallId) : List Application :=
  journal.applications.filter (·.call = call)

/-- Whether the command of a call was accepted and has a signal. -/
def isAccepted (journal : Journal) (call : CallId) : Bool :=
  journal.commits.any (·.1 = call)

/-- Whether a rule was applied for a call. -/
def hasApplied (journal : Journal) (call : CallId) : Bool :=
  journal.any (·.applies call)

/-- Whether the signal of a call has returned. -/
def hasReturned (journal : Journal) (call : CallId) : Bool :=
  journal.any (·.returns call)

/-- A call was made and has not returned. -/
def IsPending (journal : Journal) (call : CallId) : Prop :=
  (∃ command, .called call command ∈ journal) ∧ .cancelled call ∉ journal ∧
    ∀ result, .answered call result ∉ journal

/-- A rule is applied to the snapshot to which the rules before it have led, while its call is pending; the
completion of a finalize comes at once when its own signal has returned. -/
def AppliedInTurn (first : Snapshot) (before : Journal) (note : Note) : Prop :=
  ∀ call rule current now outcome, note = .applied call rule current now outcome →
    current = first.afterAll before.applications ∧ outcome = rule.apply current now ∧
      before.IsPending call ∧
      (rule = .completeFinalize → ∃ earlier, before = earlier ++ [.ended call none])

variable {journal notes : Journal} {call : CallId} {first s : Snapshot}

theorem afterAll_append (a b : List Application) :
    s.afterAll (a ++ b) = (s.afterAll a).afterAll b :=
  List.foldl_append

@[simp] theorem hasApplied_nil : hasApplied [] call = false := rfl

@[simp] theorem hasApplied_cons (note : Note) (rest : Journal) :
    hasApplied (note :: rest) call = (note.applies call || hasApplied rest call) := rfl

@[simp] theorem hasApplied_append (a b : Journal) :
    hasApplied (a ++ b) call = (hasApplied a call || hasApplied b call) :=
  List.any_append

@[simp] theorem hasReturned_nil : hasReturned [] call = false := rfl

@[simp] theorem hasReturned_cons (note : Note) (rest : Journal) :
    hasReturned (note :: rest) call = (note.returns call || hasReturned rest call) := rfl

@[simp] theorem hasReturned_append (a b : Journal) :
    hasReturned (a ++ b) call = (hasReturned a call || hasReturned b call) :=
  List.any_append

theorem hasApplied_about : (journal.about call).hasApplied call = journal.hasApplied call :=
  any_about fun _ => Note.call?_of_applies

theorem hasReturned_about : (journal.about call).hasReturned call = journal.hasReturned call :=
  any_about fun _ => Note.call?_of_returns

@[simp] theorem Silent.hasApplied (h : Silent notes) : notes.hasApplied call = false :=
  h.any fun _ hnote => by simp [Note.call?_of_applies hnote]

@[simp] theorem Silent.hasReturned (h : Silent notes) : notes.hasReturned call = false :=
  h.any fun _ hnote => by simp [Note.call?_of_returns hnote]

theorem isPending_about : (journal.about call).IsPending call ↔ journal.IsPending call := by
  have hcalled (command : Command) :
      .called call command ∈ journal.about call ↔ .called call command ∈ journal := mem_about rfl
  have hanswered (result : CommandResult) :
      .answered call result ∈ journal.about call ↔ .answered call result ∈ journal := mem_about rfl
  have hcancelled : .cancelled call ∈ journal.about call ↔ .cancelled call ∈ journal := mem_about rfl
  simp only [IsPending, hcalled, hanswered, hcancelled]

/-- An entry tells of a rule of its own call. -/
theorem applicationsOf_singleton (note : Note) :
    applicationsOf [note] call = if note.call? = some call then applications [note] else [] := by
  cases note with
  | applied other rule before now outcome =>
    simp [applicationsOf, applications, Note.call?, List.filter_cons]
  | _ => simp [applicationsOf, applications]

/-- What is told of a call tells of its rules. -/
theorem applicationsOf_eq : journal.applicationsOf call = (journal.about call).applications := by
  induction journal with
  | nil => rfl
  | cons note rest ih =>
    have hsplit : applicationsOf (note :: rest) call =
        applicationsOf [note] call ++ applicationsOf rest call := by
      rw [← List.singleton_append, applicationsOf, applications_append, List.filter_append]
      rfl
    rw [hsplit, ih, applicationsOf_singleton, about_cons]
    split_ifs
    · rw [← applications_append, List.singleton_append]
    · rfl

/-- What is told of a call tells whether it was accepted. -/
theorem isAccepted_about : (journal.about call).isAccepted call = journal.isAccepted call := by
  rw [Bool.eq_iff_iff, isAccepted, isAccepted, List.any_eq_true, List.any_eq_true]
  constructor
  · rintro ⟨e, he, heq⟩
    exact ⟨e, List.Sublist.subset (List.filter_sublist.filterMap _) he, heq⟩
  · rintro ⟨⟨other, signal⟩, he, heq⟩
    obtain rfl := of_decide_eq_true heq
    exact ⟨_, mem_commits_about he, heq⟩

end Journal

/-! ### The rules of a call -/

section Life

variable {call : CallId} {command : Command} {phase : Phase} {told : Journal}

/-- A call that is not done is pending. -/
theorem Life.isPending (h : Life call (some ⟨command, phase⟩) told) (hphase : phase.isDone = false) :
    told.IsPending call := by
  cases h with
  | made => simp [IsPending]
  | waiting => simp [IsPending]
  | signalling => simp [IsPending]
  | _ => cases hphase

/-- A call applies its rule if it has run; a finalize completes if its signal has returned. -/
theorem Life.rules (h : Life call (some ⟨command, phase⟩) told) :
    told.applications.map (·.rule) =
      (if told.hasApplied call then [command.rule] else []) ++
        (if command.isFinalize && told.isAccepted call && told.hasReturned call then
          [.completeFinalize] else []) := by
  cases h with
  | completed hrule hout hsignal hfinal hlast hresult =>
    -- the only form with two rules
    subst hrule
    simp [applications, Note.applies, Note.returns, isAccepted, commits, Note.commit?, hfinal, hout,
      command.signal?_rule _ _ hout, hsignal]
  | delivered hrule hout hsignal hfinal hresult =>
    simp [applications, Note.applies, hfinal]
  | _ => simp [applications, Note.applies, Note.returns]

/-- A result says what became of the rules that were applied for its call. -/
theorem Life.speaksOf {result : CommandResult}
    (h : Life call (some ⟨command, .answered result⟩) told) :
    .answered call result ∈ told ∧ result.SpeaksOf told.applications := by
  cases h with
  | rejected hrule hout hresult =>
    subst hout hresult
    simp [applications, CommandResult.SpeaksOf, Outcome.rejection?]
  | reported hrule hout hsignal hresult =>
    rw [← Outcome.rejection?_eq_none] at hout
    subst hresult
    simp [applications, CommandResult.SpeaksOf, hout]
  | failed hrule hout hsignal hresult =>
    rw [← Outcome.rejection?_eq_none] at hout
    subst hresult
    simp [applications, CommandResult.SpeaksOf, hout]
  | delivered hrule hout hsignal hfinal hresult =>
    rw [← Outcome.rejection?_eq_none] at hout
    subst hresult
    simp [applications, CommandResult.SpeaksOf, hout]
  | completed hrule hout hsignal hfinal hlast hresult =>
    subst hresult
    simp [applications, CommandResult.SpeaksOf, hout]

end Life

namespace ControlPlane

variable {p q : ControlPlane} {now : Timestamp} {event : Event} {call : CallId} {command : Command}
  {first : Snapshot}

/-! ### One rule after another -/

/-- What an event does with the rules: none is applied, or one is, to the current snapshot. -/
inductive Applying (p : ControlPlane) (now : Timestamp) (q : ControlPlane) (notes : Journal) : Prop
  | nothing (hnotes : notes.applications = []) (hsnapshot : q.snapshot = p.snapshot)
  | rule {call : CallId} {rule : Rule} {earlier later : Journal}
      (hnotes : notes =
        earlier ++ .applied call rule p.snapshot now (rule.apply p.snapshot now) :: later)
      (hplace : earlier = [] ∧ rule ≠ .completeFinalize ∨ earlier = [.ended call none])
      (hlater : later.applications = [])
      (hsnapshot : q.snapshot = (rule.apply p.snapshot now).after p.snapshot)
      (hpending : (p.journal ++ earlier).IsPending call)

/-- A call that is not done is pending. -/
theorem Lives.isPending (hp : p.Lives) {phase : Phase}
    (hcall : p.calls[call]? = some ⟨command, phase⟩) (hphase : phase.isDone = false) :
    p.journal.IsPending call := by
  exact isPending_about.mp ((hp.life hcall).isPending hphase)

theorem applications_outcomeNotes_append {rule : Rule} {before : Snapshot} {outcome : Outcome}
    {later : Journal} (hlater : later.applications = []) :
    Journal.applications (outcomeNotes rule before outcome ++ later) = [] := by
  rw [applications_append, (silent_outcomeNotes rule before outcome).applications, hlater]
  rfl

/-- The rule of a command is applied first thing, and no other after it. -/
theorem Applying.of_run {notes later : Journal}
    (hnotes : notes = p.commitNotes now call command.rule ++ later)
    (hlater : later.applications = [])
    (hsnapshot : q.snapshot = (command.rule.apply p.snapshot now).after p.snapshot)
    (hpending : p.journal.IsPending call) : Applying p now q notes := by
  refine .rule (hnotes.trans (List.nil_append _).symm) (Or.inl ⟨rfl, command.rule_ne⟩)
    (applications_outcomeNotes_append hlater) hsnapshot ?_
  rwa [List.append_nil]

theorem Step.applying (hstep : Step p now event q) (hp : p.Lives) :
    ∃ notes, q.journal = p.journal ++ notes ∧ Applying p now q notes := by
  cases hstep with
  | make command => exact ⟨_, rfl, .nothing rfl rfl⟩
  | reject hcall hrule hresult =>
    exact ⟨_, rfl, .of_run rfl rfl (by rw [hrule]; rfl) (hp.isPending hcall rfl)⟩
  | report hcall hrule hnext hsignal hresult =>
    refine ⟨_, rfl, .of_run rfl ?_ hnext (hp.isPending hcall rfl)⟩
    rw [applications_append, (silent_reportNotes _ _ _).applications]
    rfl
  | enter hcall hrule hnext hsignal hcome =>
    exact ⟨_, rfl, .of_run rfl rfl hnext (hp.isPending hcall rfl)⟩
  | queue hcall hrule hnext hsignal hcome =>
    exact ⟨_, rfl, .of_run (List.append_nil _).symm rfl hnext (hp.isPending hcall rfl)⟩
  | wake hcall hturn hcome => exact ⟨_, rfl, .nothing rfl rfl⟩
  | fail hcall hresult => exact ⟨_, rfl, .nothing rfl rfl⟩
  | deliver hcall hfinal hresult => exact ⟨_, rfl, .nothing rfl rfl⟩
  | @complete call command turn accepted next result hcall hfinal hnext hresult =>
    -- the call is still pending once its signal has returned
    have hreturned : IsPending (p.journal ++ [.ended call none]) call := by
      obtain ⟨⟨command, hcalled⟩, hcancelled, hanswered⟩ := hp.isPending hcall rfl
      exact ⟨⟨command, List.mem_append_left _ hcalled⟩, by simpa using hcancelled,
        fun result => by simpa using hanswered result⟩
    exact ⟨_, rfl, .rule (List.singleton_append).symm (Or.inr rfl)
      (applications_outcomeNotes_append rfl) hnext hreturned⟩
  | withdraw hcall => exact ⟨_, rfl, .nothing rfl rfl⟩
  | miss hcall hcome => exact ⟨_, rfl, .nothing rfl rfl⟩
  | leave hcall hcome => exact ⟨_, rfl, .nothing rfl rfl⟩
  | interrupt hcall => exact ⟨_, rfl, .nothing rfl rfl⟩
  | handOver hturn hstatus hcome => exact ⟨[], (List.append_nil _).symm, .nothing rfl rfl⟩

/-- The snapshot and the rules applied so far fit. -/
structure Linear (first : Snapshot) (p : ControlPlane) : Prop where
  /-- The snapshot is that to which the rules have led. -/
  snapshot : p.snapshot = first.afterAll p.journal.applications
  /-- Each rule was applied to the snapshot to which those before it had led. -/
  inTurn : p.journal.Throughout (AppliedInTurn first)

/-- Entries that tell of no rule are in turn. -/
theorem throughout_appliedInTurn {journal notes : Journal} (h : notes.applications = []) :
    Throughout (fun before => AppliedInTurn first (journal ++ before)) notes := by
  refine Throughout.of_filterMap h fun before note hnone => ?_
  rintro call rule current now outcome rfl
  cases hnone

theorem Applying.linear {notes : Journal} (happlying : Applying p now q notes)
    (hjournal : q.journal = p.journal ++ notes) (hp : p.Linear first) : q.Linear first := by
  cases happlying with
  | nothing hnotes hsnapshot =>
    constructor
    · rw [hsnapshot, hjournal, applications_append, hnotes, List.append_nil, hp.snapshot]
    · rw [hjournal, throughout_append]
      exact ⟨hp.inTurn, throughout_appliedInTurn hnotes⟩
  | @rule call rule earlier later hnotes hplace hlater hsnapshot hpending =>
    have hearlier : earlier.applications = [] := by
      rcases hplace with ⟨rfl, _⟩ | rfl <;> rfl
    -- the rule is the only one that is told of, after what comes before it in the event
    have hsplit : q.journal = p.journal ++ earlier ++
        [.applied call rule p.snapshot now (rule.apply p.snapshot now)] ++ later := by
      rw [hjournal, hnotes, List.append_assoc, List.append_assoc, List.singleton_append]
    have hbefore : Journal.applications (p.journal ++ earlier) = p.journal.applications := by
      rw [applications_append, hearlier, List.append_nil]
    constructor
    · rw [hsnapshot, hsplit, applications_append, hlater, List.append_nil, applications_append,
        hbefore, afterAll_append, ← hp.snapshot]
      rfl
    · rw [hsplit, throughout_append, throughout_concat, throughout_append]
      refine ⟨⟨⟨hp.inTurn, throughout_appliedInTurn hearlier⟩, ?_⟩, throughout_appliedInTurn hlater⟩
      rintro _ _ _ _ _ ⟨⟩
      rw [hbefore]
      refine ⟨hp.snapshot, rfl, hpending, fun hrule => ?_⟩
      rcases hplace with ⟨_, hne⟩ | rfl
      · exact absurd hrule hne
      · exact ⟨p.journal, rfl⟩

/-- Every event leaves the snapshot and the rules applied so far fitting. -/
theorem Step.linear (hstep : Step p now event q) (hlives : p.Lives) (hp : p.Linear first) :
    q.Linear first := by
  obtain ⟨notes, hjournal, happlying⟩ := hstep.applying hlives
  exact happlying.linear hjournal hp

theorem Reachable.linear (h : Reachable first p) : p.Linear first :=
  h.induction ⟨rfl, throughout_nil⟩ fun _ _ _ _ hreach hp hstep => hstep.linear hreach.lives hp

/-! ### Events and what is told of them -/

@[simp] theorem hasApplied_commitNotes {other : CallId} {rule : Rule} :
    (p.commitNotes now call rule).hasApplied other = decide (call = other) := by
  rw [commitNotes, hasApplied_cons, (silent_outcomeNotes _ _ _).hasApplied, Bool.or_false]
  rfl

@[simp] theorem hasReturned_commitNotes {other : CallId} {rule : Rule} :
    (p.commitNotes now call rule).hasReturned other = false := by
  rw [commitNotes, hasReturned_cons, (silent_outcomeNotes _ _ _).hasReturned, Bool.or_false]
  rfl

/-- A call whose signal is in progress has applied its rule. -/
theorem Lives.hasApplied_of_signalling (hp : p.Lives) {turn : Nat} {accepted : Snapshot}
    (hcall : p.calls[call]? = some ⟨command, .signalling turn accepted⟩) :
    p.journal.hasApplied call = true := by
  have hlife := hp.life hcall
  rw [← hasApplied_about]
  generalize p.journal.about call = told at hlife
  cases hlife
  simp [Note.applies]

/-- A call applies its first rule when it runs. -/
theorem Step.hasApplied (hstep : Step p now event q) (hp : p.Lives) :
    q.journal.hasApplied call = (p.journal.hasApplied call || event.isRunOf call) := by
  cases hstep with
  | make command => simp [Note.applies, Event.isRunOf]
  | reject hcall hrule hresult => simp [Note.applies, Event.isRunOf]
  | report hcall hrule hnext hsignal hresult =>
    simp [(silent_reportNotes _ _ _).hasApplied, Note.applies, Event.isRunOf]
  | enter hcall hrule hnext hsignal hcome => simp [Note.applies, Event.isRunOf]
  | queue hcall hrule hnext hsignal hcome => simp [Event.isRunOf]
  | @complete other command turn accepted next result hcall hfinal hnext hresult =>
    -- the completion is not the first rule of its call
    have happlied : other = call → p.journal.hasApplied call = true := by
      rintro rfl
      exact hp.hasApplied_of_signalling hcall
    simpa [Note.applies, Event.isRunOf] using happlied
  | wake | fail | deliver | withdraw | miss | leave | interrupt =>
    simp [Note.applies, failureNotes, Event.isRunOf]
  | handOver hturn hstatus hcome => simp [setTurn, Event.isRunOf]

/-- The return of a signal is told of when it happens. -/
theorem Step.hasReturned (hstep : Step p now event q) :
    q.journal.hasReturned call = (p.journal.hasReturned call || event.isReturnOf call) := by
  cases hstep with
  | make command => simp [Note.returns, Event.isReturnOf]
  | reject hcall hrule hresult => simp [Note.returns, Event.isReturnOf]
  | report hcall hrule hnext hsignal hresult =>
    simp [(silent_reportNotes _ _ _).hasReturned, Note.returns, Event.isReturnOf]
  | enter hcall hrule hnext hsignal hcome => simp [Note.returns, Event.isReturnOf]
  | queue hcall hrule hnext hsignal hcome => simp [Event.isReturnOf]
  | complete hcall hfinal hnext hresult => simp [Note.returns, Event.isReturnOf]
  | wake | fail | deliver | withdraw | miss | leave | interrupt =>
    simp [Note.returns, failureNotes, Event.isReturnOf]
  | handOver hturn hstatus hcome => simp [setTurn, Event.isReturnOf]

/-- The calls that have applied a rule are those that have run. -/
theorem hasApplied_eq_any {events : List Timed} (h : (idle first).runAll events = some p) :
    p.journal.hasApplied call = events.any (·.2.isRunOf call) := by
  refine runAll_induction
    (motive := fun events p => p.journal.hasApplied call = events.any (·.2.isRunOf call)) rfl ?_ h
  intro events p now event q hrun hp hstep
  rw [hstep.hasApplied (Reachable.lives ⟨events, hrun⟩), hp, List.any_append]
  simp

/-- The signals that have returned are those of which an event says so. -/
theorem hasReturned_eq_any {events : List Timed} (h : (idle first).runAll events = some p) :
    p.journal.hasReturned call = events.any (·.2.isReturnOf call) := by
  refine runAll_induction
    (motive := fun events p => p.journal.hasReturned call = events.any (·.2.isReturnOf call))
    rfl ?_ h
  intro events p now event q hrun hp hstep
  rw [hstep.hasReturned, hp, List.any_append]
  simp

/-- **Calls linearize to the rules**, in every run from any snapshot.  The snapshot is what the rules give
that were applied so far, one after another; each was applied to what those before it gave, between the
making and the return of its call.  A call that has run has applied its rule once, and a finalize the
completion once more if it was accepted and its own signal returned; a result says what became of the
rules of its own call. -/
theorem calls_linearize {events : List Timed} (h : (idle first).runAll events = some p) :
    p.snapshot = first.afterAll p.journal.applications ∧
    p.journal.Throughout (AppliedInTurn first) ∧
    (∀ call command phase, p.calls[call]? = some ⟨command, phase⟩ →
      (p.journal.applicationsOf call).map (·.rule) =
        (if events.any (·.2.isRunOf call) then [command.rule] else []) ++
          (if command.isFinalize && p.journal.isAccepted call &&
              events.any (·.2.isReturnOf call) then [.completeFinalize] else [])) ∧
    ∀ call command result, p.calls[call]? = some ⟨command, .answered result⟩ →
      .answered call result ∈ p.journal ∧ result.SpeaksOf (p.journal.applicationsOf call) := by
  have hreach : Reachable first p := ⟨events, h⟩
  have hlives := hreach.lives
  refine ⟨hreach.linear.snapshot, hreach.linear.inTurn, ?_, ?_⟩
  · intro call command phase hcall
    rw [applicationsOf_eq, ← hasApplied_eq_any h, ← hasReturned_eq_any h, ← hasApplied_about,
      ← hasReturned_about, ← isAccepted_about]
    exact (hlives.life hcall).rules
  · intro call command result hcall
    have htold : .answered call result ∈ p.journal.about call ↔ .answered call result ∈ p.journal :=
      mem_about rfl
    rw [applicationsOf_eq, ← htold]
    exact (hlives.life hcall).speaksOf

/-- A failure is reported and answered between the two rules of a finalize, whose completion is then
rejected. -/
theorem calls_linearize_with_superseded_finalize :
    ∃ p, (idle (.fresh default)).runAll (atOnce default
        [.make (.start [] []), .run 0, .finish 0 none, .make (.finalize false), .run 1,
          .make (.reportFailure (.str "disk")), .run 2, .finish 1 none]) = some p ∧
      (p.snapshot.state = .failed ∧
        (p.journal.applications.map fun a => (a.call, a.rule)) =
          [(0, .start [] []), (1, .beginFinalize false), (2, .fail (.str "disk")),
            (1, .completeFinalize)]) ∧
      p.snapshot = Snapshot.afterAll (.fresh default) p.journal.applications :=
  exists_run_and (fun _ hrun _ => (calls_linearize hrun).1) ⟨_, rfl, rfl, rfl⟩

end ControlPlane

end Cutover
