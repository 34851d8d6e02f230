import Cutover.Proofs.CallLife
import Mathlib.Data.List.Chain

/-!
# The history is a path of the lifecycle

A history is a path if it begins where a migration begins and every record tells of a change that the
lifecycle knows, from the state to which the records before it have led (`Path`).  Every rule goes on along
the path on which a snapshot stands (`Accepts.path`), so the history of a migration that began fresh is one
at any moment of any run.  Main statement: `history_is_path`.

What the statement says of the records is read off the path: a migration leaves the idle state once and
never comes back to it, and nothing leads on from the finalized state.  The times of the records follow
one another if the clock never goes back (`Timely`, `NeverGoesBack`).
-/

namespace Cutover

/-- The instant of a reading in microseconds of universal time.  A reading whose zone is not known counts
as one of universal time. -/
def Timestamp.instant (t : Timestamp) : Int :=
  t.micros - t.offset.getD 0

/-- The changes of state that the lifecycle knows, each with the command under which it is recorded. -/
def Record.changes : List (String × State × State) :=
  [("start", .idle, .running),
    ("pause", .running, .paused),
    ("resume", .paused, .running),
    ("resume", .failed, .running),
    ("finalize", .running, .finalizing),
    ("finalize", .paused, .finalizing),
    ("finalize", .finalizing, .finalized),
    ("fail", .running, .failed),
    ("fail", .paused, .failed),
    ("fail", .finalizing, .failed)]

/-- The change of state that a record tells of. -/
def Record.change (record : Record) : String × State × State :=
  (record.command, record.source, record.target)

/-- A history that leads from the idle state to a state. -/
inductive Path : List Record → State → Prop
  | nil : Path [] .idle
  | snoc {history : List Record} {record : Record} (earlier : Path history record.source)
      (hchange : record.change ∈ Record.changes) : Path (history ++ [record]) record.target

/-! ### What a path tells of its records -/

section Change

variable {record : Record}

theorem Record.target_ne_idle (h : record.change ∈ changes) : record.target ≠ .idle := by
  have hall : ∀ change ∈ changes, change.2.2 ≠ .idle := by decide
  exact hall _ h

theorem Record.source_ne_finalized (h : record.change ∈ changes) : record.source ≠ .finalized := by
  have hall : ∀ change ∈ changes, change.2.1 ≠ .finalized := by decide
  exact hall _ h

/-- A migration leaves the idle state by a start, and no other state by one. -/
theorem Record.command_eq_start_iff (h : record.change ∈ changes) :
    record.command = "start" ↔ record.source = .idle := by
  have hall : ∀ change ∈ changes, change.1 = "start" ↔ change.2.1 = .idle := by decide
  exact hall _ h

theorem Record.change_eq_of_source (h : record.change ∈ changes) (hsource : record.source = .idle) :
    record.change = ("start", .idle, .running) := by
  have hall : ∀ change ∈ changes, change.2.1 = .idle → change = ("start", .idle, .running) := by decide
  exact hall _ h hsource

end Change

namespace Path

variable {history : List Record} {record : Record} {state : State}

theorem change_mem (h : Path history state) (hmem : record ∈ history) :
    record.change ∈ Record.changes := by
  induction h with
  | nil => cases hmem
  | snoc earlier hchange ih =>
    rcases List.mem_append.mp hmem with hmem | hmem
    · exact ih hmem
    · rwa [List.mem_singleton.mp hmem]

/-- The state is that to which the last record leads. -/
theorem state_eq (h : Path history state) :
    state = (history.getLast?.map (·.target)).getD .idle := by
  cases h with
  | nil => rfl
  | snoc earlier hchange => simp

/-- Nothing leads back to the idle state. -/
theorem history_eq_nil (h : Path history .idle) : history = [] := by
  generalize hstate : State.idle = state at h
  cases h with
  | nil => rfl
  | snoc earlier hchange => exact absurd hstate.symm (Record.target_ne_idle hchange)

/-- Each record leads on from where the one before it has led. -/
theorem isChain (h : Path history state) :
    history.IsChain fun earlier later => earlier.target = later.source := by
  induction h with
  | nil => exact .nil
  | @snoc history record earlier hchange ih =>
    rw [List.isChain_append]
    refine ⟨ih, .singleton record, ?_⟩
    intro last hlast next hnext
    obtain rfl : record = next := by simpa using hnext
    rw [earlier.state_eq, Option.mem_def.mp hlast]
    rfl

/-- The first record is that of the start. -/
theorem head?_command (h : Path history state) (hfirst : record ∈ history.head?) :
    record.change = ("start", .idle, .running) := by
  induction h with
  | nil => cases hfirst
  | @snoc history last earlier hchange ih =>
    cases history with
    | cons first rest => exact ih hfirst
    | nil =>
      obtain rfl : last = record := by simpa using hfirst
      exact Record.change_eq_of_source hchange earlier.state_eq

/-- No other record is that of a start. -/
theorem tail_command (h : Path history state) (hmem : record ∈ history.tail) :
    record.command ≠ "start" := by
  induction h with
  | nil => cases hmem
  | @snoc history last earlier hchange ih =>
    intro hcommand
    cases history with
    | nil => cases hmem
    | cons first rest =>
      rcases List.mem_append.mp hmem with hmem | hmem
      · exact ih hmem hcommand
      · -- a start would lead on from the idle state, to which nothing leads
        rw [List.mem_singleton.mp hmem, Record.command_eq_start_iff hchange] at hcommand
        rw [hcommand] at earlier
        cases earlier.history_eq_nil

/-- A record that leads to the finalized state is the last one. -/
theorem dropLast_target (h : Path history state) (hmem : record ∈ history.dropLast) :
    record.target ≠ .finalized := by
  induction h with
  | nil => cases hmem
  | @snoc history last earlier hchange ih =>
    intro htarget
    rw [List.dropLast_concat] at hmem
    -- the state before the last record would be the finalized one, from which nothing leads on
    rcases List.eq_nil_or_concat history with rfl | ⟨rest, before, rfl⟩
    · cases hmem
    · rw [List.concat_eq_append, List.dropLast_concat] at ih
      rcases List.mem_append.mp (List.concat_eq_append ▸ hmem) with hmem | hmem
      · exact ih hmem htarget
      · refine Record.source_ne_finalized hchange ?_
        rw [earlier.state_eq, ← htarget, List.mem_singleton.mp hmem]
        simp

end Path

/-! ### Every rule goes on along the path -/

section Rule

variable {s : Snapshot} {now : Timestamp} {rule : Rule} {outcome : Outcome}

/-- A recorded change of state goes on along the path of a snapshot. -/
theorem Path.moveTo (h : Path s.history s.state) {command : String} {target : State}
    {detail : Fields} (hchange : (command, s.state, target) ∈ Record.changes) :
    Path (s.moveTo command target detail now).history target :=
  @Path.snoc s.history ⟨command, s.state, target, now, detail⟩ h hchange

theorem Accepts.path (haccepts : Accepts s now rule outcome) (h : Path s.history s.state) :
    Path (outcome.after s).history (outcome.after s).state := by
  cases haccepts with
  | start hstate => exact h.moveTo (by rw [hstate]; decide)
  | pause hstate => exact h.moveTo (by rw [hstate]; decide)
  | resume hstate => exact h.moveTo (by rw [hstate]; decide)
  | recover hstate => exact h.moveTo (by rw [hstate]; decide)
  | finalize hstate => exact h.moveTo (by rcases hstate with hstate | hstate <;> rw [hstate] <;> decide)
  | complete hstate => exact h.moveTo (by rw [hstate]; decide)
  | fail hstate =>
    exact h.moveTo (by rcases hstate with hstate | hstate | hstate <;> rw [hstate] <;> decide)
  | retry => exact h
  | loseHistory => exact h
  | loseNothing => exact h

/-- The records of a snapshot follow one another in time, and none is later than its last change. -/
structure Timely (s : Snapshot) : Prop where
  sorted : (s.history.map (·.timestamp.instant)).Pairwise (· ≤ ·)
  le_updatedAt : ∀ record ∈ s.history, record.timestamp.instant ≤ s.updatedAt.instant

/-- A change of state adds a record of its own time. -/
theorem Timely.snoc {next : Snapshot} {record : Record} (h : Timely s)
    (hhistory : next.history = s.history ++ [record]) (htime : record.timestamp = next.updatedAt)
    (hle : s.updatedAt.instant ≤ next.updatedAt.instant) : Timely next where
  sorted := by
    rw [hhistory, List.map_append, List.pairwise_append]
    refine ⟨h.sorted, List.pairwise_singleton .., ?_⟩
    intro earlier hearlier last hlast
    obtain ⟨before, hbefore, rfl⟩ := List.mem_map.mp hearlier
    obtain rfl : last = record.timestamp.instant := by simpa using hlast
    rw [htime]
    exact Int.le_trans (h.le_updatedAt before hbefore) hle
  le_updatedAt := by
    intro other hother
    rw [hhistory] at hother
    rcases List.mem_append.mp hother with hother | hother
    · exact Int.le_trans (h.le_updatedAt other hother) hle
    · obtain rfl := List.mem_singleton.mp hother
      exact Int.le_of_eq (congrArg Timestamp.instant htime)

theorem Accepts.timely (haccepts : Accepts s now rule outcome) (h : Timely s)
    (hnow : s.updatedAt.instant ≤ now.instant) : Timely (outcome.after s) := by
  cases haccepts with
  | retry => exact h
  | loseNothing => exact h
  | loseHistory => exact ⟨h.sorted, fun record hmem => Int.le_trans (h.le_updatedAt record hmem) hnow⟩
  | _ => exact h.snoc rfl rfl hnow

/-- A rule leaves the time of the last change as it was, or makes it the present. -/
theorem Accepts.updatedAt (haccepts : Accepts s now rule outcome) :
    (outcome.after s).updatedAt = s.updatedAt ∨ (outcome.after s).updatedAt = now := by
  cases haccepts with
  | retry => exact Or.inl rfl
  | loseNothing => exact Or.inl rfl
  | _ => exact Or.inr rfl

end Rule

namespace ControlPlane

variable {p q : ControlPlane} {now start : Timestamp} {event : Event} {events : List Timed}

/-! ### What an event does to the snapshot -/

/-- An event keeps the snapshot, or replaces it by what an accepted rule gives. -/
theorem Step.snapshot (hstep : Step p now event q) :
    q.snapshot = p.snapshot ∨
      ∃ rule outcome, Accepts p.snapshot now rule outcome ∧ q.snapshot = outcome.after p.snapshot := by
  have hrule (rule : Rule) (h : q.snapshot = (rule.apply p.snapshot now).after p.snapshot) :
      q.snapshot = p.snapshot ∨
        ∃ rule outcome, Accepts p.snapshot now rule outcome ∧
          q.snapshot = outcome.after p.snapshot := by
    cases haccepted : (rule.apply p.snapshot now).isAccepted with
    | true => exact Or.inr ⟨rule, _, Rule.accepts haccepted, h⟩
    | false => exact Or.inl (h.trans (Outcome.after_of_not_accepted _ haccepted))
  cases hstep with
  | report _ _ hnext => exact hrule _ hnext
  | enter _ _ hnext => exact hrule _ hnext
  | queue _ _ hnext => exact hrule _ hnext
  | complete _ _ hnext => exact hrule _ hnext
  | _ => exact Or.inl rfl

/-- What every accepted rule keeps holds of the snapshot in every state that can be reached. -/
theorem Reachable.snapshot_induction {first : Snapshot} {motive : Snapshot → Prop}
    (start : motive first)
    (rule : ∀ s now rule outcome, motive s → Accepts s now rule outcome → motive (outcome.after s))
    (h : Reachable first p) : motive p.snapshot := by
  refine h.induction (motive := fun p => motive p.snapshot) start ?_
  intro p now event q _ hp hstep
  rcases hstep.snapshot with hsame | ⟨_, _, haccepts, hnext⟩
  · rwa [hsame]
  · rw [hnext]
    exact rule _ _ _ _ hp haccepts

/-- The history of a migration that began fresh is a path to its state. -/
theorem Reachable.path (h : Reachable (.fresh start) p) : Path p.snapshot.history p.snapshot.state :=
  h.snapshot_induction (motive := fun s => Path s.history s.state) .nil
    fun _ _ _ _ hpath haccepts => haccepts.path hpath

/-! ### Time -/

/-- The clock never goes back: neither before the first event nor from one event to a later one. -/
def NeverGoesBack (start : Timestamp) (events : List Timed) : Prop :=
  (start.instant :: events.map (·.1.instant)).Pairwise (· ≤ ·)

/-- The snapshot was last changed at the beginning or at the time of an event, and its records follow one
another in time. -/
theorem timely_of_neverGoesBack (h : (idle (.fresh start)).runAll events = some p)
    (hclock : NeverGoesBack start events) :
    Timely p.snapshot ∧
      p.snapshot.updatedAt.instant ∈ start.instant :: events.map (·.1.instant) := by
  refine runAll_induction
    (motive := fun events p => NeverGoesBack start events → Timely p.snapshot ∧
      p.snapshot.updatedAt.instant ∈ start.instant :: events.map (·.1.instant))
    ?_ ?_ h hclock
  · intro _
    exact ⟨⟨.nil, nofun⟩, List.mem_cons_self ..⟩
  · intro events p now event q _ hp hstep hclock
    have htimes : start.instant :: (events ++ [(now, event)]).map (·.1.instant) =
        (start.instant :: events.map (·.1.instant)) ++ [now.instant] := by simp
    rw [NeverGoesBack, htimes, List.pairwise_append] at hclock
    obtain ⟨htimely, hupdated⟩ := hp hclock.1
    -- the last change was at one of the instants before this event
    have hnow : p.snapshot.updatedAt.instant ≤ now.instant :=
      hclock.2.2 _ hupdated _ (List.mem_singleton_self _)
    rw [htimes, List.mem_append, List.mem_singleton]
    rcases hstep.snapshot with hsame | ⟨_, _, haccepts, hnext⟩
    · rw [hsame]
      exact ⟨htimely, Or.inl hupdated⟩
    · rw [hnext]
      refine ⟨haccepts.timely htimely hnow, ?_⟩
      rcases haccepts.updatedAt with hsame | hpresent
      · rw [hsame]
        exact Or.inl hupdated
      · rw [hpresent]
        exact Or.inr rfl

/-- **The history of a migration is a path of the lifecycle**, in every run of a migration that begins
fresh.  Every record tells of a change that the lifecycle knows; the first one is that of the start, and no
other is; each leads on from where the one before it has led, the last one to the current state, and none
leads on from the finalized state.  If the clock never goes back, the records follow one another in time,
and the last change of the snapshot is not earlier than any of them. -/
theorem history_is_path (h : (idle (.fresh start)).runAll events = some p) :
    (∀ record ∈ p.snapshot.history, record.change ∈ Record.changes) ∧
    (∀ record ∈ p.snapshot.history.head?, record.change = ("start", .idle, .running)) ∧
    (∀ record ∈ p.snapshot.history.tail, record.command ≠ "start") ∧
    (p.snapshot.history.IsChain fun earlier later => earlier.target = later.source) ∧
    p.snapshot.state = (p.snapshot.history.getLast?.map (·.target)).getD .idle ∧
    (∀ record ∈ p.snapshot.history.dropLast, record.target ≠ .finalized) ∧
    (NeverGoesBack start events →
      (p.snapshot.history.map (·.timestamp.instant)).Pairwise (· ≤ ·) ∧
      ∀ record ∈ p.snapshot.history.getLast?,
        record.timestamp.instant ≤ p.snapshot.updatedAt.instant) := by
  have hpath : Path p.snapshot.history p.snapshot.state := Reachable.path ⟨events, h⟩
  refine ⟨fun _ => hpath.change_mem, fun _ => hpath.head?_command, fun _ => hpath.tail_command,
    hpath.isChain, hpath.state_eq, fun _ => hpath.dropLast_target, fun hclock => ?_⟩
  obtain ⟨htimely, _⟩ := timely_of_neverGoesBack h hclock
  exact ⟨htimely.sorted, fun record hlast =>
    htimely.le_updatedAt record (List.mem_of_mem_getLast? hlast)⟩

/-- A migration fails while it is paused and is resumed, and its source loses history during the cutover;
seconds pass between the commands. -/
theorem history_is_path_of_recovered_migration :
    ∃ p, (idle (.fresh (.universal 0))).runAll
        [(.universal 1000000, .make (.start [] [])), (.universal 1000000, .run 0),
          (.universal 1000000, .finish 0 none), (.universal 2000000, .make .pause),
          (.universal 2000000, .run 1), (.universal 2000000, .finish 1 none),
          (.universal 3000000, .make (.reportFailure (.str "disk full"))), (.universal 3000000, .run 2),
          (.universal 4000000, .make (.resume true)), (.universal 4000000, .run 3),
          (.universal 4000000, .finish 3 none), (.universal 5000000, .make (.finalize true)),
          (.universal 5000000, .run 4), (.universal 6000000, .make .reportHistoryLost),
          (.universal 6000000, .run 5), (.universal 7000000, .finish 4 none)] = some p ∧
      (p.snapshot.history.map (·.change) =
          [("start", .idle, .running), ("pause", .running, .paused), ("fail", .paused, .failed),
            ("resume", .failed, .running), ("finalize", .running, .finalizing),
            ("finalize", .finalizing, .finalized)] ∧
        p.snapshot.historyLost = true) ∧
      (p.snapshot.history.map (·.timestamp.instant)).Pairwise (· ≤ ·) ∧
      ∀ record ∈ p.snapshot.history.getLast?,
        record.timestamp.instant ≤ p.snapshot.updatedAt.instant :=
  exists_run_and
    (fun _ hrun _ => (history_is_path hrun).2.2.2.2.2.2 (by unfold NeverGoesBack; decide))
    ⟨_, rfl, rfl, rfl⟩

end ControlPlane

end Cutover
