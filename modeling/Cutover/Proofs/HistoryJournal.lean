import Cutover.Proofs.HistoryPath
import Cutover.Proofs.ScopeText

/-!
# The history as a journal of the snapshot

What is known of a migration that began fresh can be read off its history, apart from the loss of history
and the time of the last change: its state, its scope, and why it failed.  Main statement:
`snapshot_of_history`.

The scope is that of the first record, which is the record of the start (`Journaled.scope`), and the reason
of a failure is that of the last record as long as the migration has failed (`Journaled.failed`,
`Journaled.healthy`).  Every recorded change of state keeps this (`Journaled.moveTo`), and a resume repeats
the reason of the failure that it leads on from (`Record.Repeats`).
-/

namespace Cutover

/-- A migration fails by the record of a failure, and by no other. -/
theorem Record.command_eq_fail_iff {record : Record} (h : record.change ∈ changes) :
    record.command = "fail" ↔ record.target = .failed := by
  have hall : ∀ change ∈ changes, change.1 = "fail" ↔ change.2.2 = .failed := by decide
  exact hall _ h

/-- A record that leads on from the failed state repeats the reason of the failure before it. -/
def Record.Repeats (failure record : Record) : Prop :=
  record.source = .failed → ∃ reason, failure.command = "fail" ∧
    failure.detail = [("reason", reason)] ∧
    record.detail = [("from_failure", .bool true), ("failure_reason", reason)]

/-- A migration that has left the idle state has a record. -/
theorem Path.ne_nil {history : List Record} {state : State} (h : Path history state)
    (hstate : state ≠ .idle) : history ≠ [] := by
  cases h with
  | nil => exact absurd rfl hstate
  | snoc => simp

/-- What is known of a migration stands in its history. -/
structure Journaled (s : Snapshot) : Prop where
  /-- A migration that was not started has no scope. -/
  unstarted : s.history = [] → s.filter = none
  /-- The scope stands in the first record. -/
  scope : ∀ record ∈ s.history.head?, ∃ included excluded filter,
    Filter.build included excluded = .ok filter ∧ record.detail = filter.payload ∧
      s.filter = some filter
  /-- The reason of a failure stands in the last record. -/
  failed : s.state = .failed → ∃ record ∈ s.history.getLast?, record.command = "fail" ∧
    record.detail = [("reason", s.failureReason)]
  /-- There is a reason of a failure only if the migration has failed. -/
  healthy : s.state ≠ .failed → s.failureReason = .null
  /-- A resume repeats the reason of the failure before it. -/
  resumed : s.history.IsChain Record.Repeats

section Rule

variable {s next : Snapshot} {now : Timestamp} {rule : Rule} {outcome : Outcome}

/-- A recorded change of state of a started migration keeps its scope in its history, and it repeats the
reason of a failure, or tells of one, where there is one. -/
theorem Journaled.moveTo (h : Journaled s) (hpath : Path s.history s.state) {command : String}
    {detail : Fields} (hstate : s.state ≠ .idle)
    (hhistory : next.history = (s.moveTo command next.state detail now).history)
    (hfilter : next.filter = s.filter)
    (hfailed : next.state = .failed → command = "fail" ∧ detail = [("reason", next.failureReason)])
    (hhealthy : next.state ≠ .failed → next.failureReason = .null)
    (hresumed : s.state = .failed →
      detail = [("from_failure", .bool true), ("failure_reason", s.failureReason)]) :
    Journaled next := by
  have hne := hpath.ne_nil hstate
  rw [Snapshot.history_moveTo] at hhistory
  constructor
  case unstarted =>
    intro hnil
    simp [hhistory] at hnil
  case scope =>
    intro record hfirst
    rw [hhistory, List.head?_append_of_ne_nil _ hne] at hfirst
    rw [hfilter]
    exact h.scope record hfirst
  case failed =>
    intro hnext
    rw [hhistory, List.getLast?_concat]
    exact ⟨_, rfl, hfailed hnext⟩
  case healthy => exact hhealthy
  case resumed =>
    rw [hhistory, List.isChain_append]
    refine ⟨h.resumed, .singleton _, ?_⟩
    intro last hlast record hrecord hsource
    obtain rfl : _ = record := Option.some.inj hrecord
    -- the migration has failed by the record before
    obtain ⟨failure, hfailure, hcommand, hdetail⟩ := h.failed hsource
    obtain rfl : failure = last := Option.some.inj (hfailure.symm.trans hlast)
    exact ⟨_, hcommand, hdetail, hresumed hsource⟩

/-- A recorded change from one healthy state to another. -/
theorem Journaled.moveTo_healthy (h : Journaled s) (hpath : Path s.history s.state) {command : String}
    {target : State} {detail : Fields} (hstate : s.state ≠ .idle ∧ s.state ≠ .failed)
    (htarget : target ≠ .failed) : Journaled (s.moveTo command target detail now) :=
  h.moveTo hpath hstate.1 rfl rfl (absurd · htarget) (fun _ => if_neg htarget) (absurd · hstate.2)

/-- Every rule keeps what is known of a migration in its history. -/
theorem Accepts.journaled (haccepts : Accepts s now rule outcome) (hpath : Path s.history s.state)
    (h : Journaled s) : Journaled (outcome.after s) := by
  cases haccepts with
  | @start included excluded filter hstate hfilter =>
    -- the record of the start is the first one
    have hnil : s.history = [] := (hstate ▸ hpath).history_eq_nil
    have hhistory : (s.moveTo "start" .running filter.payload now).history =
        [⟨"start", s.state, .running, now, filter.payload⟩] := by
      rw [Snapshot.history_moveTo, hnil, List.nil_append]
    constructor
    case unstarted =>
      intro hnil
      rw [Outcome.after, hhistory] at hnil
      cases hnil
    case scope =>
      intro record hfirst
      rw [Outcome.after, hhistory] at hfirst
      obtain rfl := Option.some.inj hfirst
      exact ⟨included, excluded, filter, hfilter, rfl, rfl⟩
    case failed =>
      intro hfailed
      cases hfailed
    case healthy => exact fun _ => rfl
    case resumed =>
      rw [Outcome.after, hhistory]
      exact .singleton _
  | pause hstate => exact h.moveTo_healthy hpath (by simp [hstate]) (by decide)
  | resume hstate => exact h.moveTo_healthy hpath (by simp [hstate]) (by decide)
  | recover hstate =>
    have htarget : State.running ≠ .failed := by decide
    exact h.moveTo hpath (by simp [hstate]) rfl rfl (absurd · htarget) (fun _ => rfl) fun _ => rfl
  | finalize hstate =>
    exact h.moveTo_healthy hpath (by rcases hstate with hstate | hstate <;> simp [hstate]) (by decide)
  | complete hstate => exact h.moveTo_healthy hpath (by simp [hstate]) (by decide)
  | fail hstate =>
    have hhealthy : s.state ≠ .idle ∧ s.state ≠ .failed := by
      rcases hstate with hstate | hstate | hstate <;> simp [hstate]
    exact h.moveTo hpath hhealthy.1 rfl rfl (fun _ => ⟨rfl, rfl⟩) (absurd rfl ·) (absurd · hhealthy.2)
  | retry => exact h
  | loseNothing => exact h
  | loseHistory => exact ⟨h.unstarted, h.scope, h.failed, h.healthy, h.resumed⟩

end Rule

section History

variable {s : Snapshot} {record : Record} {earlier later : List Record}

/-- The reason in the record of a failure is that of the snapshot as long as no record comes after it. -/
theorem Journaled.reason_of_fail (h : Journaled s) (hpath : Path s.history s.state)
    (hlast : record ∈ s.history.getLast?) (hcommand : record.command = "fail") :
    record.detail.get? "reason" = some s.failureReason := by
  rw [Record.command_eq_fail_iff (hpath.change_mem (List.mem_of_mem_getLast? hlast))] at hcommand
  have hstate : s.state = .failed := by
    rw [hpath.state_eq, Option.mem_def.mp hlast]
    exact hcommand
  obtain ⟨failure, hfailure, _, hdetail⟩ := h.failed hstate
  obtain rfl : failure = record := Option.some.inj (hfailure.symm.trans hlast)
  rw [hdetail]
  rfl

/-- A record that leads on from the failed state comes right after the record of a failure. -/
theorem Journaled.exists_failure (h : Journaled s) (hpath : Path s.history s.state)
    (hsplit : s.history = earlier ++ record :: later) (hsource : record.source = .failed) :
    ∃ before failure reason, earlier = before ++ [failure] ∧ failure.command = "fail" ∧
      failure.detail.get? "reason" = some reason ∧
      record.detail = [("from_failure", .bool true), ("failure_reason", reason)] := by
  rcases List.eq_nil_or_concat earlier with rfl | ⟨before, failure, rfl⟩
  · -- the first record leads on from the idle state
    have hfirst : record.change = ("start", .idle, .running) :=
      hpath.head?_command (by rw [hsplit]; rfl)
    have hidle : record.source = .idle := congrArg (·.2.1) hfirst
    rw [hsource] at hidle
    cases hidle
  · have hchain := h.resumed
    rw [hsplit, List.concat_eq_append, List.append_assoc, List.singleton_append] at hchain
    have hrepeats : failure.Repeats record :=
      (List.isChain_cons_cons.mp (List.isChain_append.mp hchain).2.1).1
    obtain ⟨reason, hcommand, hdetail, hrecord⟩ := hrepeats hsource
    exact ⟨before, failure, reason, List.concat_eq_append, hcommand, by rw [hdetail]; rfl, hrecord⟩

end History

namespace ControlPlane

variable {p : ControlPlane} {start : Timestamp}

theorem Reachable.journaled (h : Reachable (.fresh start) p) : Journaled p.snapshot := by
  refine And.right (a := Path p.snapshot.history p.snapshot.state) ?_
  refine h.snapshot_induction (motive := fun s => Path s.history s.state ∧ Journaled s) ?_ ?_
  · exact ⟨.nil, fun _ => rfl, nofun, nofun, fun _ => rfl, .nil⟩
  · intro s now rule outcome hs haccepts
    exact ⟨haccepts.path hs.1, haccepts.journaled hs.1 hs.2⟩

/-- **The history is a complete journal of the snapshot**, in every run of a migration that begins fresh.
The state is that to which the last record leads.  There is no scope while the history is empty, and
otherwise the scope is built from the two lists in the details of the first record.  The reason of a failure
is that in the details of the last record if this is the record of a failure, and there is none otherwise.
Every record of a resume from the failed state comes right after the record of a failure, and its details
are that it leads on from a failure and the reason of this failure. -/
theorem snapshot_of_history (h : Reachable (.fresh start) p) :
    p.snapshot.state = (p.snapshot.history.getLast?.map (·.target)).getD .idle ∧
    (p.snapshot.history = [] → p.snapshot.filter = none) ∧
    (∀ record ∈ p.snapshot.history.head?, ∃ included excluded filter,
      record.detail.get? "includeNamespaces" = some (.arr included) ∧
      record.detail.get? "excludeNamespaces" = some (.arr excluded) ∧
      Filter.build included excluded = .ok filter ∧ p.snapshot.filter = some filter) ∧
    (∀ record ∈ p.snapshot.history.getLast?, record.command = "fail" →
      record.detail.get? "reason" = some p.snapshot.failureReason) ∧
    ((∀ record ∈ p.snapshot.history.getLast?, record.command ≠ "fail") →
      p.snapshot.failureReason = .null) ∧
    ∀ earlier record later, p.snapshot.history = earlier ++ record :: later →
      record.command = "resume" → record.source = .failed →
      ∃ before failure reason, earlier = before ++ [failure] ∧ failure.command = "fail" ∧
        failure.detail.get? "reason" = some reason ∧
        record.detail = [("from_failure", .bool true), ("failure_reason", reason)] := by
  have hpath := h.path
  have hjournaled := h.journaled
  refine ⟨hpath.state_eq, hjournaled.unstarted, ?_, ?_, ?_, ?_⟩
  · intro record hfirst
    obtain ⟨_, _, filter, hbuild, hdetail, hfilter⟩ := hjournaled.scope record hfirst
    rw [hdetail]
    exact ⟨_, _, filter, Filter.get?_payload_included, Filter.get?_payload_excluded,
      Filter.build_texts hbuild, hfilter⟩
  · intro record hlast hcommand
    exact hjournaled.reason_of_fail hpath hlast hcommand
  · intro hnone
    apply hjournaled.healthy
    intro hfailed
    obtain ⟨record, hlast, hcommand, _⟩ := hjournaled.failed hfailed
    exact hnone record hlast hcommand
  · intro earlier record later hsplit _ hsource
    exact hjournaled.exists_failure hpath hsplit hsource

/-- A migration of one database fails twice, and is resumed after the first failure. -/
theorem snapshot_of_history_of_failed_migration :
    ∃ p, (idle (.fresh default)).runAll (atOnce default
        [.make (.start [.str " db1.* ", .str "db1.*"] [.str "db1.log"]), .run 0, .finish 0 none,
          .make (.reportFailure (.str "disk full")), .run 1, .make (.resume true), .run 2,
          .finish 2 none, .make (.reportFailure (.str "network")), .run 3]) = some p ∧
      (p.snapshot.history.map (·.command) = ["start", "fail", "resume", "fail"] ∧
        p.snapshot.filter = some ⟨[⟨"db1", "*"⟩], [⟨"db1", "log"⟩]⟩ ∧
        p.snapshot.failureReason = .str "network") ∧
      (∀ record ∈ p.snapshot.history.head?, ∃ included excluded filter,
        record.detail.get? "includeNamespaces" = some (.arr included) ∧
        record.detail.get? "excludeNamespaces" = some (.arr excluded) ∧
        Filter.build included excluded = .ok filter ∧ p.snapshot.filter = some filter) ∧
      ∀ record ∈ p.snapshot.history.getLast?, record.command = "fail" →
        record.detail.get? "reason" = some p.snapshot.failureReason :=
  exists_run_and
    (fun _ hrun _ => by
      obtain ⟨_, _, hscope, hreason, _⟩ := snapshot_of_history ⟨_, hrun⟩
      exact ⟨hscope, hreason⟩)
    ⟨_, rfl, rfl, rfl, rfl⟩

end ControlPlane

end Cutover
