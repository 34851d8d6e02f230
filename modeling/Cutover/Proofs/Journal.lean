import Cutover.ControlPlane.Basic
import Mathlib.Data.List.Induction

/-!
# What a journal tells

The questions that are asked of a journal: what it tells of one call (`about`), which commands were
accepted and in which order (`commits`), whether the signal of a call has begun or is over.

`Throughout ok` says that every entry stands well to what was written before it.  A journal only grows
at its end, so such a property is kept by every new entry that has it (`throughout_concat`,
`throughout_append`).  Entries of the log and of the audit trail are about no call, and none of the
questions notices them (`Silent`).
-/

namespace Cutover

namespace Note

/-- The call that an entry is about. -/
def call? : Note → Option CallId
  | .called call _ => some call
  | .applied call _ _ _ _ => some call
  | .began call _ => some call
  | .ended call _ => some call
  | .cancelled call => some call
  | .answered call _ => some call
  | .logged _ => none
  | .audited _ => none

end Note

/-- The signal that is due once a rule has led to a snapshot: a start tells the engine the filter of that
snapshot, the other commands their own argument. -/
def Rule.signal? (next : Snapshot) : Rule → Option Signal
  | .start .. => next.filter.map .start
  | .pause => some .pause
  | .resume fromFailure => some (.resume fromFailure)
  | .beginFinalize ignoreHistoryLost => some (.finalize ignoreHistoryLost)
  | .completeFinalize => none
  | .fail _ => none
  | .markHistoryLost => none

/-- The call whose command is accepted by an entry, with the signal that is due for it. -/
def Note.commit? : Note → Option (CallId × Signal)
  | .applied call rule before _ outcome =>
    if outcome.isAccepted then (rule.signal? (outcome.after before)).map (call, ·) else none
  | _ => none

/-- An entry tells of an accepted command if it tells of an accepted rule for which a signal is due. -/
theorem Note.commit?_eq_some {note : Note} {call : CallId} {signal : Signal} :
    note.commit? = some (call, signal) ↔ ∃ rule before now outcome,
      note = .applied call rule before now outcome ∧ outcome.isAccepted = true ∧
        rule.signal? (outcome.after before) = some signal := by
  constructor
  · intro h
    cases note <;> simp only [commit?, reduceCtorEq] at h
    split_ifs at h with haccepted
    obtain ⟨due, hsignal, heq⟩ := Option.map_eq_some_iff.mp h
    obtain ⟨rfl, rfl⟩ := Prod.mk.inj heq
    exact ⟨_, _, _, _, rfl, haccepted, hsignal⟩
  · rintro ⟨rule, before, now, outcome, rfl, haccepted, hsignal⟩
    rw [commit?, if_pos haccepted, hsignal]
    rfl

namespace Journal

/-- What is told of one call. -/
def about (journal : Journal) (call : CallId) : Journal :=
  journal.filter (·.call? = some call)

/-- The commands that were accepted, in the order in which they were, each with the signal that is due
for it. -/
def commits (journal : Journal) : List (CallId × Signal) :=
  journal.filterMap Note.commit?

/-- Whether the signal of a call has begun. -/
def hasBegun (journal : Journal) (call : CallId) : Bool :=
  journal.any fun
    | .began other _ => other = call
    | _ => false

/-- Whether a call was cancelled. -/
def isCancelled (journal : Journal) (call : CallId) : Bool :=
  journal.any fun
    | .cancelled other => other = call
    | _ => false

/-- Whether the signal of a call has ended by itself. -/
def hasEnded (journal : Journal) (call : CallId) : Bool :=
  journal.any fun
    | .ended other _ => other = call
    | _ => false

/-- Whether no signal of a call is to be awaited any more: it has ended, or the call was cancelled, in the
queue or during its signal, which ends with it. -/
def isOver (journal : Journal) (call : CallId) : Bool :=
  journal.hasEnded call || journal.isCancelled call

/-- Whether the signal of a call is in progress. -/
def isInProgress (journal : Journal) (call : CallId) : Bool :=
  journal.hasBegun call && !journal.isOver call

/-- Whether a call was cancelled before its signal began. -/
def leftQueue (journal : Journal) (call : CallId) : Bool :=
  journal.isCancelled call && !journal.hasBegun call

/-- Every entry stands well to what was written before it. -/
def Throughout (ok : Journal → Note → Prop) (journal : Journal) : Prop :=
  ∀ before note, before ++ [note] <+: journal → ok before note

/-- Entries that are about no call. -/
def Silent (notes : Journal) : Prop :=
  ∀ note ∈ notes, note.call? = none

/-- Entries that are about no other call. -/
def Concerns (notes : Journal) (call : CallId) : Prop :=
  ∀ note ∈ notes, note.call? = none ∨ note.call? = some call

variable {ok : Journal → Note → Prop} {journal notes : Journal} {call : CallId}

/-! ### Appending to a journal -/

@[simp] theorem about_nil : about [] call = [] := rfl

@[simp] theorem about_append (a b : Journal) : about (a ++ b) call = about a call ++ about b call :=
  List.filter_append ..

theorem about_mono (h : notes <+: journal) : notes.about call <+: journal.about call :=
  h.filter _

theorem about_cons (note : Note) (rest : Journal) :
    about (note :: rest) call =
      if note.call? = some call then note :: about rest call else about rest call := by
  simp [about, List.filter_cons]

@[simp] theorem commits_nil : commits [] = [] := rfl

@[simp] theorem commits_append (a b : Journal) : commits (a ++ b) = commits a ++ commits b :=
  List.filterMap_append ..

attribute [simp] signals_append applications_append

@[simp] theorem signals_nil : signals [] = [] := rfl

@[simp] theorem applications_nil : applications [] = [] := rfl

@[simp] theorem hasBegun_append (a b : Journal) :
    hasBegun (a ++ b) call = (hasBegun a call || hasBegun b call) :=
  List.any_append

@[simp] theorem isCancelled_append (a b : Journal) :
    isCancelled (a ++ b) call = (isCancelled a call || isCancelled b call) :=
  List.any_append

@[simp] theorem hasEnded_append (a b : Journal) :
    hasEnded (a ++ b) call = (hasEnded a call || hasEnded b call) :=
  List.any_append

theorem isOver_append (a b : Journal) :
    isOver (a ++ b) call = (isOver a call || isOver b call) := by
  simp only [isOver, hasEnded_append, isCancelled_append]
  cases hasEnded a call <;> cases isCancelled a call <;> simp

/-- An entry about a call is added to what is told of it. -/
theorem about_concat {note : Note} (h : note.call? = some call) :
    about (journal ++ [note]) call = about journal call ++ [note] := by
  rw [about_append, about_cons, if_pos h, about_nil]

theorem isOver_mono (h : notes <+: journal) (hover : notes.isOver call = true) :
    journal.isOver call = true := by
  obtain ⟨later, rfl⟩ := h
  rw [isOver_append, hover, Bool.true_or]

/-! ### Membership -/

theorem hasBegun_iff : journal.hasBegun call = true ↔ ∃ signal, .began call signal ∈ journal := by
  rw [hasBegun, List.any_eq_true]
  constructor
  · rintro ⟨note, hmem, hnote⟩
    cases note with
    | began other signal =>
      obtain rfl := of_decide_eq_true hnote
      exact ⟨signal, hmem⟩
    | _ => cases hnote
  · rintro ⟨signal, hmem⟩
    exact ⟨_, hmem, decide_eq_true rfl⟩

theorem isCancelled_iff : journal.isCancelled call = true ↔ .cancelled call ∈ journal := by
  rw [isCancelled, List.any_eq_true]
  constructor
  · rintro ⟨note, hmem, hnote⟩
    cases note with
    | cancelled other =>
      obtain rfl := of_decide_eq_true hnote
      exact hmem
    | _ => cases hnote
  · intro hmem
    exact ⟨_, hmem, decide_eq_true rfl⟩

/-- A signal has begun if it is one of those that have. -/
theorem hasBegun_iff_mem_signals :
    journal.hasBegun call = true ↔ call ∈ journal.signals.map Prod.fst := by
  rw [hasBegun_iff]
  constructor
  · rintro ⟨signal, hmem⟩
    exact List.mem_map.mpr ⟨(call, signal), List.mem_filterMap.mpr ⟨_, hmem, rfl⟩, rfl⟩
  · intro hmem
    obtain ⟨⟨other, signal⟩, hsignal, rfl⟩ := List.mem_map.mp hmem
    obtain ⟨note, hnote, hbegan⟩ := List.mem_filterMap.mp hsignal
    cases note <;> simp only [reduceCtorEq, Option.some.injEq, Prod.mk.injEq] at hbegan
    obtain ⟨rfl, rfl⟩ := hbegan
    exact ⟨_, hnote⟩

theorem hasBegun_eq_false (h : notes.signals = []) : notes.hasBegun call = false := by
  rw [Bool.eq_false_iff, ne_eq, hasBegun_iff_mem_signals, h]
  exact List.not_mem_nil

@[simp] theorem hasBegun_began {other : CallId} {signal : Signal} :
    hasBegun [.began call signal] other = decide (call = other) := by
  simp [hasBegun]

/-- An entry about a call is found in what is told of that call. -/
theorem mem_about {note : Note} (h : note.call? = some call) :
    note ∈ journal.about call ↔ note ∈ journal := by
  simp [about, h]

/-- A question about a call is answered by what is told of that call. -/
theorem any_about {asks : Note → Bool} (h : ∀ note, asks note = true → note.call? = some call) :
    (journal.about call).any asks = journal.any asks := by
  rw [about, List.any_filter]
  congr 1
  funext note
  cases hnote : asks note with
  | false => simp
  | true => simp [h note hnote]

theorem hasBegun_about : (journal.about call).hasBegun call = journal.hasBegun call :=
  any_about fun note => by cases note <;> simp [Note.call?]

theorem hasEnded_about : (journal.about call).hasEnded call = journal.hasEnded call :=
  any_about fun note => by cases note <;> simp [Note.call?]

theorem isCancelled_about : (journal.about call).isCancelled call = journal.isCancelled call :=
  any_about fun note => by cases note <;> simp [Note.call?]

theorem isOver_about : (journal.about call).isOver call = journal.isOver call := by
  rw [isOver, isOver, hasEnded_about, isCancelled_about]

/-- An accepted command is found in what is told of its call. -/
theorem mem_commits_about {signal : Signal} (h : (call, signal) ∈ journal.commits) :
    (call, signal) ∈ (journal.about call).commits := by
  obtain ⟨note, hmem, hnote⟩ := List.mem_filterMap.mp h
  obtain ⟨_, _, _, _, rfl, _⟩ := Note.commit?_eq_some.mp hnote
  exact List.mem_filterMap.mpr ⟨_, (mem_about rfl).mpr hmem, hnote⟩

/-! ### Every entry and what was written before it -/

@[simp] theorem throughout_nil : Throughout ok [] := by
  intro before note h
  simp at h

/-- A journal that grows by one entry. -/
theorem throughout_concat {note : Note} :
    Throughout ok (journal ++ [note]) ↔ Throughout ok journal ∧ ok journal note := by
  constructor
  · intro h
    refine ⟨fun before earlier hp => h before earlier (hp.trans (List.prefix_append ..)), ?_⟩
    exact h journal note List.prefix_rfl
  · -- a prefix of the longer journal is all of it, or one of the journal before
    rintro ⟨hj, hnote⟩ before last hp
    rw [List.prefix_concat_iff] at hp
    rcases hp with heq | hp
    · obtain ⟨rfl, hlast⟩ := List.append_inj' heq rfl
      rw [List.singleton_inj] at hlast
      exact hlast ▸ hnote
    · exact hj before last hp

theorem throughout_append :
    Throughout ok (journal ++ notes) ↔
      Throughout ok journal ∧ Throughout (fun before => ok (journal ++ before)) notes := by
  induction notes using List.reverseRecOn with
  | nil => simp
  | append_singleton notes note ih =>
    rw [← List.append_assoc, throughout_concat, ih, throughout_concat, and_assoc]

theorem throughout_cons {note : Note} :
    Throughout ok (note :: notes) ↔
      ok [] note ∧ Throughout (fun before => ok (note :: before)) notes := by
  rw [← List.singleton_append, throughout_append, ← List.nil_append [note], throughout_concat]
  simp

theorem Throughout.mono {earlier : Journal} (h : Throughout ok journal)
    (hp : earlier <+: journal) : Throughout ok earlier :=
  fun before note hn => h before note (hn.trans hp)

/-- An entry stands somewhere, and what holds throughout holds up to it. -/
theorem Throughout.exists_split {note : Note} (h : Throughout ok (journal ++ notes))
    (hmem : note ∈ notes) :
    ∃ earlier later, notes = earlier ++ note :: later ∧
      Throughout ok (journal ++ earlier ++ [note]) := by
  obtain ⟨earlier, later, rfl⟩ := List.append_of_mem hmem
  exact ⟨earlier, later, rfl, h.mono ⟨later, by simp⟩⟩

/-- Entries that do not show in a view keep what is said of those that do. -/
theorem Throughout.of_filterMap {α : Type} {view : Note → Option α} (h : notes.filterMap view = [])
    (hok : ∀ before note, view note = none → ok before note) : Throughout ok notes := by
  intro before note hp
  apply hok
  exact List.filterMap_eq_nil_iff.mp h note (hp.subset (by simp))

/-! ### Entries about one call or none -/

@[simp] theorem concerns_nil : Concerns [] call := by
  intro note h
  cases h

@[simp] theorem concerns_cons {note : Note} :
    Concerns (note :: notes) call ↔
      (note.call? = none ∨ note.call? = some call) ∧ Concerns notes call :=
  List.forall_mem_cons

@[simp] theorem concerns_append {a b : Journal} :
    Concerns (a ++ b) call ↔ Concerns a call ∧ Concerns b call :=
  List.forall_mem_append

theorem Silent.concerns (h : Silent notes) : Concerns notes call :=
  fun note hmem => Or.inl (h note hmem)

/-- What is told of the other calls stays as it was. -/
theorem Concerns.about_other {other : CallId} (h : Concerns notes call) (hother : call ≠ other) :
    notes.about other = [] := by
  rw [about, List.filter_eq_nil_iff]
  intro note hmem
  rcases h note hmem with hcall | hcall <;> simp [hcall, hother]

theorem Silent.about (h : Silent notes) : notes.about call = [] := by
  rw [Journal.about, List.filter_eq_nil_iff]
  intro note hmem
  simp [h note hmem]

theorem Silent.filterMap {α : Type} {f : Note → Option α} (h : Silent notes)
    (hf : ∀ note : Note, note.call? = none → f note = none) : notes.filterMap f = [] :=
  List.filterMap_eq_nil_iff.mpr fun note hmem => hf note (h note hmem)

theorem Silent.any {asks : Note → Bool} (h : Silent notes)
    (hasks : ∀ note, asks note = true → note.call? ≠ none) : notes.any asks = false := by
  rw [List.any_eq_false]
  intro note hmem hnote
  exact hasks note hnote (h note hmem)

theorem Silent.commits (h : Silent notes) : notes.commits = [] :=
  h.filterMap fun note hnote => by cases note <;> cases hnote <;> rfl

theorem Silent.signals (h : Silent notes) : notes.signals = [] :=
  h.filterMap fun note hnote => by cases note <;> cases hnote <;> rfl

theorem Silent.applications (h : Silent notes) : notes.applications = [] :=
  h.filterMap fun note hnote => by cases note <;> cases hnote <;> rfl

end Journal

end Cutover
