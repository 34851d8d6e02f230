import Cutover.Proofs.Linearization
import Cutover.Proofs.SignalOrder

/-!
# Whose cutover completes a migration

A migration may come to finalize several times, when its apply engine fails and it is resumed.  An attempt
is what has been told since it last came to finalize (`attempt`), and the cutover of the attempt was
delivered if the signal of a finalize accepted in it has begun and returned (`cutoverDelivered`).

A finalize completes whenever its own signal has returned and the state is finalizing, whichever attempt
that is.  So a migration becomes finalized by the cutover of the current attempt unless the call that
completes was overtaken by a failure: then its signal is one of an earlier attempt, and that of the current
attempt has not even begun, as it waits for its turn.  Main statement:
`finalized_by_current_attempt_iff`.
-/

namespace Cutover

open Journal

/-- Without a failure, a migration that finalizes comes to be finalized at most. -/
theorem Accepts.state_of_finalizing {s : Snapshot} {now : Timestamp} {rule : Rule} {outcome : Outcome}
    (h : Accepts s now rule outcome) (hstate : s.state = .finalizing ∨ s.state = .finalized)
    (hfail : ∀ reason, rule ≠ .fail reason) :
    ((outcome.after s).state = .finalizing ∧ s.state = .finalizing) ∨
      (outcome.after s).state = .finalized := by
  cases h with
  | start hidle => simp [hidle] at hstate
  | pause hrunning => simp [hrunning] at hstate
  | resume hpaused => simp [hpaused] at hstate
  | recover hfailed => simp [hfailed] at hstate
  | finalize hsource => rcases hsource with h | h <;> simp [h] at hstate
  | retry hfinalizing => exact Or.inl ⟨hfinalizing, hfinalizing⟩
  | complete => exact Or.inr rfl
  | fail => exact absurd rfl (hfail _)
  | loseHistory => exact hstate.imp (fun h => ⟨h, h⟩) id
  | loseNothing => exact hstate.imp (fun h => ⟨h, h⟩) id

namespace Note

/-- Whether an entry tells of a change into a state from another. -/
def enters (state : State) : Note → Bool
  | .applied _ _ before _ (.moved next) => before.state ≠ state && next.state = state
  | _ => false

/-- Whether an entry tells that a rule was accepted. -/
def accepts : Note → Bool
  | .applied _ _ _ _ outcome => outcome.isAccepted
  | _ => false

theorem accepts_iff {note : Note} :
    note.accepts = true ↔ ∃ call rule before now outcome,
      note = .applied call rule before now outcome ∧ outcome.isAccepted = true := by
  cases note <;> simp [accepts]

/-- The call whose finalize is accepted by an entry. -/
def finalize? : Note → Option CallId
  | .applied call (.beginFinalize _) _ _ outcome => if outcome.isAccepted then some call else none
  | _ => none

/-- Whether an entry tells that a failure of the engine was accepted. -/
def acceptsFailure : Note → Bool
  | .applied _ (.fail _) _ _ outcome => outcome.isAccepted
  | _ => false

end Note

namespace Journal

/-- What has been told since the last entry of a kind, with this entry; everything if there is none. -/
def since (asks : Note → Bool) : Journal → Journal
  | [] => []
  | note :: rest => if rest.any asks then since asks rest else note :: rest

/-- What has been told since the migration last came to finalize. -/
def attempt (journal : Journal) : Journal :=
  journal.since (·.enters .finalizing)

/-- Whether the signal of a finalize that was accepted in the current attempt has begun and returned. -/
def cutoverDelivered (journal : Journal) : Bool :=
  journal.attempt.any fun note =>
    note.finalize?.any fun call => journal.hasBegun call && journal.hasReturned call

/-- Whether a failure was accepted after the finalize of a call. -/
def isOvertaken (journal : Journal) (call : CallId) : Bool :=
  (journal.since (·.finalize? = some call)).any (·.acceptsFailure)

/-! ### Since the last entry of a kind -/

section Since

variable {asks : Note → Bool} {journal earlier later : Journal} {note : Note}

/-- The last entry of a kind divides a journal. -/
theorem exists_since (h : journal.any asks = true) :
    ∃ earlier last later, journal = earlier ++ last :: later ∧ asks last = true ∧
      later.any asks = false ∧ journal.since asks = last :: later := by
  induction journal with
  | nil => cases h
  | cons note rest ih =>
    rw [since]
    split_ifs with hrest
    · obtain ⟨earlier, last, later, rfl, hlast, hlater, hsince⟩ := ih hrest
      exact ⟨note :: earlier, last, later, rfl, hlast, hlater, hsince⟩
    · rw [Bool.not_eq_true] at hrest
      rw [List.any_cons, hrest, Bool.or_false] at h
      exact ⟨[], note, rest, rfl, h, hrest, rfl⟩

/-- What comes before the last entry of a kind does not count. -/
theorem since_append (h : later.any asks = true) :
    since asks (earlier ++ later) = since asks later := by
  induction earlier with
  | nil => rfl
  | cons note rest ih =>
    rw [List.cons_append, since, if_pos (by rw [List.any_append, h, Bool.or_true]), ih]

theorem since_subset : since asks journal ⊆ journal := by
  induction journal with
  | nil => exact List.nil_subset _
  | cons note rest ih =>
    rw [since]
    split_ifs
    · exact List.subset_cons_of_subset note ih
    · exact List.Subset.refl _

/-- An entry after which there is none of a kind has been told since the last one. -/
theorem mem_since (h : later.any asks = false) : note ∈ since asks (earlier ++ note :: later) := by
  induction earlier with
  | nil =>
    rw [List.nil_append, since, if_neg (by simp [h])]
    exact List.mem_cons_self ..
  | cons first rest ih =>
    rw [List.cons_append, since]
    split_ifs
    · exact ih
    · simp

end Since

/-! ### The state as the journal grows -/

section State

variable {first : Snapshot} {before earlier later : Journal} {note : Note} {state : State}

/-- An accepted rule leads on from the snapshot to which the rules before it have led. -/
theorem afterAll_applied {call : CallId} {rule : Rule} {current : Snapshot} {now : Timestamp}
    {outcome : Outcome}
    (h : Throughout (AppliedInTurn first) (before ++ [.applied call rule current now outcome]))
    (haccepted : outcome.isAccepted = true) :
    current = first.afterAll before.applications ∧ Accepts current now rule outcome ∧
      first.afterAll (applications (before ++ [.applied call rule current now outcome])) =
        outcome.after current := by
  obtain ⟨rfl, rfl, _⟩ := (throughout_concat.mp h).2 _ _ _ _ _ rfl
  refine ⟨rfl, Rule.accepts haccepted, ?_⟩
  rw [applications_append, afterAll_append]
  rfl

/-- An entry tells of an accepted rule, or the snapshot stays as it was. -/
theorem afterAll_concat_cases (h : Throughout (AppliedInTurn first) (before ++ [note])) :
    (∃ call rule current now outcome, note = .applied call rule current now outcome ∧
        outcome.isAccepted = true) ∨
      (∀ state, note.enters state = false) ∧
        first.afterAll (before ++ [note]).applications = first.afterAll before.applications := by
  rw [applications_append, afterAll_append]
  cases note with
  | applied call rule current now outcome =>
    obtain ⟨_, houtcome, _⟩ := (throughout_concat.mp h).2 _ _ _ _ _ rfl
    cases haccepted : outcome.isAccepted with
    | true => exact Or.inl ⟨_, _, _, _, _, rfl, haccepted⟩
    | false =>
      right
      constructor
      · intro state
        cases outcome with
        | moved next => cases haccepted
        | _ => rfl
      · obtain ⟨hcurrent, _⟩ := (throughout_concat.mp h).2 _ _ _ _ _ rfl
        have hsame := Outcome.after_of_not_accepted current haccepted
        rw [houtcome, hcurrent] at hsame
        exact hsame
  | _ => exact Or.inr ⟨fun _ => rfl, rfl⟩

/-- What goes on with every accepted rule and stays with every other entry holds of the snapshot to which a
journal leads. -/
theorem afterAll_induction {journal : Journal} {motive : Journal → Snapshot → Prop}
    (start : motive [] first)
    (rule : ∀ journal s call rule now outcome, motive journal s → Accepts s now rule outcome →
      outcome.isAccepted = true →
      motive (journal ++ [.applied call rule s now outcome]) (outcome.after s))
    (other : ∀ journal s note, motive journal s → note.accepts = false → motive (journal ++ [note]) s)
    (h : Throughout (AppliedInTurn first) journal) :
    motive journal (first.afterAll journal.applications) := by
  induction journal using List.reverseRecOn with
  | nil => exact start
  | append_singleton journal note ih =>
    have hbefore := ih (throughout_concat.mp h).1
    by_cases haccepted : ∃ call rule current now outcome,
        note = .applied call rule current now outcome ∧ outcome.isAccepted = true
    · obtain ⟨call, _, _, now, _, rfl, haccepted⟩ := haccepted
      obtain ⟨rfl, haccepts, hafter⟩ := afterAll_applied h haccepted
      rw [hafter]
      exact rule _ _ _ _ _ _ hbefore haccepts haccepted
    · obtain ⟨_, hsame⟩ := (afterAll_concat_cases h).resolve_left haccepted
      rw [hsame]
      refine other _ _ _ hbefore ?_
      rw [← Bool.not_eq_true, Note.accepts_iff]
      exact haccepted

/-- An entry tells of a change into a state if the state becomes this one. -/
theorem enters_iff (h : Throughout (AppliedInTurn first) (before ++ [note])) :
    note.enters state = true ↔ (first.afterAll before.applications).state ≠ state ∧
      (first.afterAll (before ++ [note]).applications).state = state := by
  rcases afterAll_concat_cases h with ⟨_, _, _, _, outcome, rfl, haccepted⟩ | ⟨hnone, hsame⟩
  · obtain ⟨rfl, _, hafter⟩ := afterAll_applied h haccepted
    rw [hafter]
    cases outcome with
    | moved next => simp [Note.enters, Outcome.after]
    | kept => simp [Note.enters, Outcome.after]
    | rejected rejection => simp [Note.enters, Outcome.after]
  · rw [hnone, hsame]
    simp

/-- A change into a state is told of by an entry. -/
theorem state_ne_of_not_enters (h : Throughout (AppliedInTurn first) (earlier ++ later))
    (hstate : (first.afterAll earlier.applications).state ≠ state)
    (hlater : later.any (·.enters state) = false) :
    (first.afterAll (earlier ++ later).applications).state ≠ state := by
  induction later using List.reverseRecOn with
  | nil => rwa [List.append_nil]
  | append_singleton later note ih =>
    rw [List.any_append, Bool.or_eq_false_iff] at hlater
    rw [← List.append_assoc] at h ⊢
    have hbefore := ih (throughout_concat.mp h).1 hlater.1
    intro hafter
    have henters := (enters_iff h).mpr ⟨hbefore, hafter⟩
    simp [henters] at hlater

/-- As long as no failure is accepted, a migration that finalizes goes on with its attempt. -/
theorem state_of_not_acceptsFailure (h : Throughout (AppliedInTurn first) (before ++ [note]))
    (hstate : (first.afterAll before.applications).state = .finalizing ∨
      (first.afterAll before.applications).state = .finalized)
    (hnote : note.acceptsFailure = false) :
    ((first.afterAll (before ++ [note]).applications).state = .finalizing ∧
        (first.afterAll before.applications).state = .finalizing) ∨
      (first.afterAll (before ++ [note]).applications).state = .finalized := by
  rcases afterAll_concat_cases h with ⟨_, _, _, _, _, rfl, haccepted⟩ | ⟨_, hsame⟩
  · obtain ⟨rfl, haccepts, hafter⟩ := afterAll_applied h haccepted
    rw [hafter]
    refine haccepts.state_of_finalizing hstate ?_
    rintro reason rfl
    cases haccepts with
    | fail => cases hnote
  · rw [hsame]
    exact hstate.imp_left fun hfinalizing => ⟨hfinalizing, hfinalizing⟩

theorem not_enters_of_not_acceptsFailure
    (h : Throughout (AppliedInTurn first) (earlier ++ later))
    (hstate : (first.afterAll earlier.applications).state = .finalizing ∨
      (first.afterAll earlier.applications).state = .finalized)
    (hlater : later.any (·.acceptsFailure) = false) :
    later.any (·.enters .finalizing) = false ∧
      ((first.afterAll (earlier ++ later).applications).state = .finalizing ∨
        (first.afterAll (earlier ++ later).applications).state = .finalized) := by
  induction later using List.reverseRecOn with
  | nil => exact ⟨rfl, by rwa [List.append_nil]⟩
  | append_singleton later note ih =>
    rw [List.any_append, Bool.or_eq_false_iff] at hlater
    rw [← List.append_assoc] at h ⊢
    obtain ⟨hnone, hbefore⟩ := ih (throughout_concat.mp h).1 hlater.1
    have hafter := state_of_not_acceptsFailure h hbefore (by simpa using hlater.2)
    have hnote : note.enters .finalizing = false := by
      rw [Bool.eq_false_iff]
      intro henters
      obtain ⟨hne, heq⟩ := (enters_iff h).mp henters
      rcases hafter with ⟨_, hfinalizing⟩ | hfinalized
      · exact hne hfinalizing
      · rw [heq] at hfinalized
        cases hfinalized
    rw [List.any_append, hnone]
    exact ⟨by simp [hnote], hafter.imp_left And.left⟩

end State

/-! ### Accepted finalizes and failures -/

section Accepted

variable {first : Snapshot} {before : Journal} {note : Note} {call : CallId}

theorem finalize?_eq_some :
    note.finalize? = some call ↔ ∃ ignoreHistoryLost before now outcome,
      note = .applied call (.beginFinalize ignoreHistoryLost) before now outcome ∧
        outcome.isAccepted = true := by
  constructor
  · intro h
    cases note with
    | applied other rule before now outcome =>
      cases rule with
      | beginFinalize ignoreHistoryLost =>
        simp only [Note.finalize?] at h
        split_ifs at h with haccepted
        obtain rfl := Option.some.inj h
        exact ⟨_, _, _, _, rfl, haccepted⟩
      | _ => cases h
    | _ => cases h
  · rintro ⟨_, _, _, _, rfl, haccepted⟩
    simp [Note.finalize?, haccepted]

theorem acceptsFailure_iff :
    note.acceptsFailure = true ↔ ∃ call reason before now outcome,
      note = .applied call (.fail reason) before now outcome ∧ outcome.isAccepted = true := by
  constructor
  · intro h
    cases note with
    | applied other rule before now outcome =>
      cases rule with
      | fail reason => exact ⟨_, _, _, _, _, rfl, h⟩
      | _ => cases h
    | _ => cases h
  · rintro ⟨_, _, _, _, _, rfl, haccepted⟩
    exact haccepted

/-- An accepted finalize is an accepted command. -/
theorem commit?_of_finalize? (h : note.finalize? = some call) :
    ∃ signal, note.commit? = some (call, signal) := by
  obtain ⟨ignoreHistoryLost, _, _, _, rfl, haccepted⟩ := finalize?_eq_some.mp h
  exact ⟨.finalize ignoreHistoryLost, Note.commit?_eq_some.mpr ⟨_, _, _, _, rfl, haccepted, rfl⟩⟩

/-- Only an accepted rule is an accepted command. -/
theorem commit?_of_not_accepts (h : note.accepts = false) : note.commit? = none := by
  rw [Option.eq_none_iff_forall_ne_some]
  rintro ⟨call, signal⟩ hcommit
  obtain ⟨_, _, _, _, rfl, haccepted, _⟩ := Note.commit?_eq_some.mp hcommit
  rw [Note.accepts, haccepted] at h
  cases h

theorem finalize?_of_not_accepts (h : note.accepts = false) : note.finalize? = none := by
  rw [Option.eq_none_iff_forall_ne_some]
  intro call hcall
  obtain ⟨signal, hcommit⟩ := commit?_of_finalize? hcall
  rw [commit?_of_not_accepts h] at hcommit
  cases hcommit

/-- The commits around an accepted command. -/
theorem commits_append_cons {earlier later : Journal} {commit : CallId × Signal}
    (h : note.commit? = some commit) :
    commits (earlier ++ note :: later) = earlier.commits ++ commit :: later.commits := by
  rw [commits_append, commits, commits, List.filterMap_cons_some h]
  rfl

/-- Once a finalize is accepted, the migration finalizes. -/
theorem state_of_finalize? (h : Throughout (AppliedInTurn first) (before ++ [note]))
    (hnote : note.finalize? = some call) :
    (first.afterAll (before ++ [note]).applications).state = .finalizing := by
  obtain ⟨ignoreHistoryLost, _, _, _, rfl, haccepted⟩ := finalize?_eq_some.mp hnote
  obtain ⟨_, haccepts, hafter⟩ := afterAll_applied h haccepted
  rw [hafter]
  cases haccepts with
  | finalize => rfl
  | retry hstate => exact hstate

/-- Once a failure is accepted, the migration has failed. -/
theorem state_of_acceptsFailure (h : Throughout (AppliedInTurn first) (before ++ [note]))
    (hnote : note.acceptsFailure = true) :
    (first.afterAll (before ++ [note]).applications).state = .failed := by
  obtain ⟨_, _, _, _, _, rfl, haccepted⟩ := acceptsFailure_iff.mp hnote
  obtain ⟨_, haccepts, hafter⟩ := afterAll_applied h haccepted
  rw [hafter]
  cases haccepts with
  | fail => rfl

end Accepted

/-- If `x` comes before `z`, and `y` stands for what `z` stands for, then `x` comes before `y`, as nothing
is stood for twice. -/
theorem mem_of_append_cons {α β : Type} (f : α → β) {a b a' b' : List α} {x y z : α}
    (hnodup : ((a ++ x :: b).map f).Nodup) (heq : a ++ x :: b = a' ++ y :: b')
    (hz : z ∈ b) (hyz : f y = f z) : x ∈ a' := by
  rw [List.map_append, List.map_cons, List.nodup_append, List.nodup_cons] at hnodup
  obtain ⟨_, ⟨hx, _⟩, hdisjoint⟩ := hnodup
  have hlater : f y ∈ b.map f := hyz ▸ List.mem_map_of_mem hz
  rcases List.append_eq_append_iff.mp heq with ⟨c, rfl, hc⟩ | ⟨c, rfl, hc⟩
  · cases c with
    | nil =>
      obtain ⟨rfl, _⟩ := List.cons.inj hc
      exact absurd hlater hx
    | cons w c =>
      obtain ⟨rfl, _⟩ := List.cons.inj hc
      simp
  · cases c with
    | nil =>
      obtain ⟨rfl, _⟩ := List.cons.inj hc
      exact absurd hlater hx
    | cons w c =>
      obtain ⟨rfl, _⟩ := List.cons.inj hc
      exact absurd rfl (hdisjoint (f y) (by simp) (f y) (List.mem_cons_of_mem _ hlater))

end Journal

/-- When a finalize completes, it was accepted, and its signal has begun and returned. -/
def CompletesAfter (call : CallId) (before : Journal) (note : Note) : Prop :=
  ∀ current now outcome, note = .applied call .completeFinalize current now outcome →
    ∃ command accepted signal, accepted.finalize? = some call ∧
      before = [.called call command, accepted, .began call signal, .ended call none]

theorem Life.completesAfter {call : CallId} {c : Option Call} {told : Journal}
    (h : Life call c told) : told.Throughout (CompletesAfter call) := by
  cases h with
  | @completed command before current now later outcome final signal result hrule hout hsignal
      hfinal hlast hresult =>
    cases command with
    | finalize ignoreHistoryLost =>
      have haccepted : (Note.applied call (.beginFinalize ignoreHistoryLost) before now
          outcome).finalize? = some call :=
        finalize?_eq_some.mpr ⟨_, _, _, _, rfl, hout⟩
      simp only [throughout_cons, throughout_nil, CompletesAfter, Command.rule, Note.applied.injEq,
        reduceCtorEq, false_and, and_false, false_imp_iff, implies_true, true_and, and_true]
      intro current' now' outcome' heq
      exact ⟨_, _, _, haccepted, rfl⟩
    | _ => cases hfinal
  | _ => simp [throughout_cons, CompletesAfter, Command.rule_ne]

/-- Only the completion of a cutover leads to the finalized state. -/
theorem Accepts.eq_completeFinalize_of_ne {s next : Snapshot} {now : Timestamp} {rule : Rule}
    (h : Accepts s now rule (.moved next)) (hstate : s.state ≠ .finalized)
    (hnext : next.state = .finalized) : rule = .completeFinalize := by
  cases h with
  | complete => rfl
  | loseHistory => exact absurd hnext hstate
  | _ => cases hnext

theorem Accepts.eq_completeFinalize {s next : Snapshot} {now : Timestamp} {rule : Rule}
    (h : Accepts s now rule (.moved next)) (hstate : s.state = .finalizing)
    (hnext : next.state = .finalized) : rule = .completeFinalize :=
  h.eq_completeFinalize_of_ne (by rw [hstate]; decide) hnext

namespace Journal

variable {first : Snapshot} {before : Journal} {call other : CallId}

/-- If no failure was accepted after a finalize whose signal has returned, the cutover of the current
attempt was delivered by it. -/
theorem cutoverDelivered_of_not_isOvertaken (h : Throughout (AppliedInTurn first) before)
    (haccepted : before.any (·.finalize? = some call) = true)
    (hbegun : before.hasBegun call = true) (hreturned : before.hasReturned call = true)
    (hovertaken : before.isOvertaken call = false) : before.cutoverDelivered = true := by
  obtain ⟨earlier, accepted, later, rfl, hcall, _, hsince⟩ := exists_since haccepted
  rw [decide_eq_true_eq] at hcall
  rw [isOvertaken, hsince, List.any_cons, Bool.or_eq_false_iff] at hovertaken
  have hsplit : earlier ++ accepted :: later = earlier ++ [accepted] ++ later := by simp
  have hstate := state_of_finalize? (h.mono (by rw [hsplit]; exact List.prefix_append ..)) hcall
  -- the finalize was accepted in the current attempt
  have hnone := (not_enters_of_not_acceptsFailure (hsplit ▸ h) (Or.inl hstate) hovertaken.2).1
  rw [cutoverDelivered, List.any_eq_true]
  refine ⟨accepted, mem_since hnone, ?_⟩
  rw [hcall, Option.any_some, hbegun, hreturned]
  rfl

/-- If a failure was accepted after a finalize and the migration finalizes again, the current attempt
began after it. -/
theorem attempt_subset_of_isOvertaken (h : Throughout (AppliedInTurn first) before)
    (hstate : (first.afterAll before.applications).state = .finalizing)
    (haccepted : before.any (·.finalize? = some call) = true)
    (hovertaken : before.isOvertaken call = true) :
    ∃ earlier accepted later, before = earlier ++ accepted :: later ∧
      accepted.finalize? = some call ∧ before.attempt ⊆ later := by
  obtain ⟨earlier, accepted, later, rfl, hcall, _, hsince⟩ := exists_since haccepted
  rw [decide_eq_true_eq] at hcall
  have hnever : accepted.acceptsFailure = false := by
    obtain ⟨_, _, _, _, rfl, _⟩ := finalize?_eq_some.mp hcall
    rfl
  rw [isOvertaken, hsince, List.any_cons, hnever, Bool.false_or, List.any_eq_true] at hovertaken
  obtain ⟨failure, hfailure, haccepts⟩ := hovertaken
  obtain ⟨soon, late, rfl⟩ := List.append_of_mem hfailure
  have hsplit : earlier ++ accepted :: (soon ++ failure :: late) =
      (earlier ++ accepted :: soon) ++ [failure] ++ late := by simp
  have hfailed := state_of_acceptsFailure
    (h.mono (by rw [hsplit]; exact List.prefix_append ..)) haccepts
  -- from failed the migration comes to finalize only by a new attempt
  have henters : late.any (·.enters .finalizing) = true := by
    rw [← Bool.not_eq_false]
    intro hnone
    refine state_ne_of_not_enters (hsplit ▸ h) ?_ hnone (hsplit ▸ hstate)
    rw [hfailed]
    decide
  refine ⟨earlier, accepted, _, rfl, hcall, ?_⟩
  rw [attempt, hsplit, since_append henters]
  intro note hnote
  have hlate := since_subset hnote
  simp [hlate]

end Journal

namespace ControlPlane

variable {p : ControlPlane} {first current : Snapshot} {before : Journal} {call : CallId}
  {now : Timestamp} {outcome : Outcome}

/-- A signal begins only when every command accepted before its own is over. -/
theorem exists_prefix_isOver {other : CallId} {due due' : Signal}
    {earlier later : List (CallId × Signal)} (h : before.Throughout BeginsInTurn)
    (hnodup : (before.commits.map Prod.fst).Nodup)
    (hsplit : before.commits = earlier ++ (call, due) :: later) (hlater : (other, due') ∈ later)
    (hbegun : before.hasBegun other = true) :
    ∃ (start : Journal) (signal : Signal),
      start ++ [.began other signal] <+: before ∧ start.isOver call = true := by
  obtain ⟨signal, hbegan⟩ := hasBegun_iff.mp hbegun
  obtain ⟨start, rest, hstart⟩ := List.append_of_mem hbegan
  have hwritten : start ++ [.began other signal] <+: before := ⟨rest, by rw [hstart]; simp⟩
  obtain ⟨_, passed, waiting, hcommits, hover⟩ := h _ _ hwritten _ _ rfl
  -- among the commits the one command comes before the other, so it had to be over
  have hsplit' : before.commits =
      passed ++ (other, signal) :: (waiting ++ commits (.began other signal :: rest)) := by
    rw [hstart, commits_append, hcommits, List.append_assoc, List.cons_append]
  have hpassed : (call, due) ∈ passed :=
    mem_of_append_cons Prod.fst (hsplit ▸ hnodup) (hsplit.symm.trans hsplit') hlater rfl
  exact ⟨start, signal, hwritten, hover _ hpassed⟩

/-- A finalize completes as soon as its own signal has returned. -/
theorem Reachable.exists_completing (h : Reachable first p)
    (hwritten : before ++ [.applied call .completeFinalize current now outcome] <+: p.journal) :
    ∃ (earlier : Journal) (command : Command) (accepted : Note) (signal : Signal),
      before = earlier ++ [.ended call none] ∧ accepted.finalize? = some call ∧
      earlier.about call = [.called call command, accepted, .began call signal] := by
  obtain ⟨_, _, _, hreturn⟩ := h.linear.inTurn _ _ hwritten _ _ _ _ _ rfl
  obtain ⟨earlier, rfl⟩ := hreturn rfl
  have htold : about (earlier ++ [.ended call none] ++
      [.applied call .completeFinalize current now outcome]) call <+: p.journal.about call :=
    about_mono hwritten
  rw [about_concat rfl, about_concat rfl] at htold
  obtain ⟨command, accepted, signal, haccepted, hbefore⟩ :=
    (h.lives call).completesAfter _ _ htold _ _ _ rfl
  -- the return of the signal is the last thing told of the call before it completes
  have hlast := hbefore.trans (List.append_cons [_, _] _ [_])
  exact ⟨earlier, command, accepted, signal, rfl, haccepted, (List.append_inj' hlast rfl).1⟩

/-- While the signal of a finalize is in progress, none that was accepted after it has begun its own. -/
theorem not_cutoverDelivered_of_isOvertaken {earlier : Journal}
    (hinTurn : Throughout (AppliedInTurn first) (earlier ++ [.ended call none]))
    (hbegins : Throughout BeginsInTurn (earlier ++ [.ended call none]))
    (hnodup : ((commits (earlier ++ [.ended call none])).map Prod.fst).Nodup)
    (hstate : (first.afterAll (applications (earlier ++ [.ended call none]))).state = .finalizing)
    (haccepted : List.any (earlier ++ [.ended call none]) (·.finalize? = some call) = true)
    (hover : earlier.isOver call = false)
    (hovertaken : isOvertaken (earlier ++ [.ended call none]) call = true) :
    cutoverDelivered (earlier ++ [.ended call none]) = false := by
  rw [← Bool.not_eq_true]
  intro hdelivered
  obtain ⟨_, accepted, later, hsplit, hcall, hsubset⟩ :=
    attempt_subset_of_isOvertaken hinTurn hstate haccepted hovertaken
  obtain ⟨note, hnote, hown⟩ := List.any_eq_true.mp hdelivered
  obtain ⟨other, hother, hown⟩ := (Option.any_eq_true _ _).mp hown
  rw [Bool.and_eq_true] at hown
  obtain ⟨due, hdue⟩ := commit?_of_finalize? hcall
  obtain ⟨due', hdue'⟩ := commit?_of_finalize? hother
  obtain ⟨start, signal, hstart, hpassed⟩ :=
    exists_prefix_isOver hbegins hnodup (hsplit ▸ commits_append_cons hdue)
      (List.mem_filterMap.mpr ⟨note, hsubset hnote, hdue'⟩) hown.1
  -- the other signal began before the own one had returned
  rcases List.prefix_concat_iff.mp hstart with heq | hstart
  · cases (List.append_inj' heq rfl).2
  · rw [isOver_mono ((List.prefix_append ..).trans hstart) hpassed] at hover
    cases hover

/-- **A migration becomes finalized by the cutover of its current attempt unless the call that completes
was overtaken by a failure**, in every run from any snapshot.  If one was, the current attempt is another
than that of the call, and its own cutover has not been delivered. -/
theorem finalized_by_current_attempt_iff (h : Reachable first p) {rule : Rule} {next : Snapshot}
    (hwritten : before ++ [.applied call rule current now (.moved next)] <+: p.journal)
    (hcurrent : current.state = .finalizing) (hnext : next.state = .finalized) :
    before.cutoverDelivered = true ↔ before.isOvertaken call = false := by
  have hbefore : before <+: p.journal := (List.prefix_append ..).trans hwritten
  have hinTurn := h.linear.inTurn.mono hbefore
  obtain ⟨hstate, haccepts, _⟩ := afterAll_applied (h.linear.inTurn.mono hwritten) rfl
  obtain rfl := haccepts.eq_completeFinalize hcurrent hnext
  obtain ⟨earlier, command, accepted, signal, rfl, haccepted, habout⟩ :=
    h.exists_completing hwritten
  have hany : List.any (earlier ++ [.ended call none]) (·.finalize? = some call) = true := by
    have hmem : accepted ∈ earlier.about call := by simp [habout]
    exact List.any_eq_true.mpr ⟨accepted, List.mem_append_left _ (List.mem_of_mem_filter hmem),
      decide_eq_true haccepted⟩
  constructor
  · intro hdelivered
    have hover : earlier.isOver call = false := by
      obtain ⟨_, _, _, _, rfl, _⟩ := finalize?_eq_some.mp haccepted
      rw [← isOver_about, habout]
      simp [isOver, hasEnded, isCancelled]
    have hnodup : ((commits (earlier ++ [.ended call none])).map Prod.fst).Nodup :=
      h.ordered.nodup_commits h.queued |>.sublist ((hbefore.filterMap _).sublist.map _)
    rw [← Bool.not_eq_true]
    intro hovertaken
    rw [not_cutoverDelivered_of_isOvertaken hinTurn (h.beginsInTurn.mono hbefore) hnodup
      (hstate ▸ hcurrent) hany hover hovertaken] at hdelivered
    cases hdelivered
  · intro hovertaken
    have hbegun : hasBegun (earlier ++ [.ended call none]) call = true := by
      rw [hasBegun_append, ← hasBegun_about, habout]
      simp [hasBegun]
    exact cutoverDelivered_of_not_isOvertaken hinTurn hany hbegun (by simp [Note.returns])
      hovertaken

/-- A finalize that nothing overtakes completes by its own cutover. -/
theorem finalized_by_current_attempt_undisturbed :
    ∃ p, (idle (.fresh default)).runAll (atOnce default
        [.make (.start [] []), .run 0, .finish 0 none, .make (.finalize false), .run 1,
          .finish 1 none]) = some p ∧
      (∃ current now next, p.journal.take 13 ++
          [.applied 1 .completeFinalize current now (.moved next)] <+: p.journal ∧
        current.state = .finalizing ∧ next.state = .finalized ∧
        isOvertaken (p.journal.take 13) 1 = false) ∧
      cutoverDelivered (p.journal.take 13) = true :=
  exists_run_and
    (fun _ hrun ⟨_, _, _, hwritten, hcurrent, hnext, hovertaken⟩ =>
      (finalized_by_current_attempt_iff ⟨_, hrun⟩ hwritten hcurrent hnext).mpr hovertaken)
    ⟨_, rfl, _, _, _, ⟨_, rfl⟩, rfl, rfl, rfl⟩

/-- The apply engine fails during a cutover, and the migration is resumed and finalized anew before the
signal of that cutover returns.  The migration becomes finalized at once, though the signal of the second
finalize has not begun. -/
theorem finalized_by_overtaken_cutover :
    ∃ p, (idle (.fresh default)).runAll (atOnce default
        [.make (.start [] []), .run 0, .finish 0 none, .make (.finalize false), .run 1,
          .make (.reportFailure (.str "disk full")), .run 2, .make (.resume true), .run 3,
          .make (.finalize false), .run 4, .finish 1 none]) = some p ∧
      (∃ current now next, p.journal.take 27 ++
          [.applied 1 .completeFinalize current now (.moved next)] <+: p.journal ∧
        current.state = .finalizing ∧ next.state = .finalized ∧
        cutoverDelivered (p.journal.take 27) = false) ∧
      p.journal.hasBegun 4 = false :=
  ⟨_, rfl, ⟨_, _, _, ⟨_, rfl⟩, rfl, rfl, rfl⟩, rfl⟩

end ControlPlane

end Cutover
