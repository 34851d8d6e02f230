import Cutover.Proofs.CallLife
import Mathlib.Data.List.Nodup

/-!
# Signals follow the order of the commits

The signals that have begun are, in order, the accepted commands whose signal has begun
(`Ordered.signals`), and no signal begins while another is in progress or before every earlier accepted
command is over (`BeginsInTurn`).  Main statement: `signals_follow_commits`.

The accepted commands stand in the queue in the order in which they were accepted (`Ordered.commits`), and
a signal that has begun is that of a turn that has come (`Ordered.come`).  As the turns before one that
has come were given up, and the calls of turns that were given up are done, whatever comes before a
signal is over when it begins.
-/

namespace Cutover

open Journal

/-! ### Filters of one list -/

/-- If whatever `keep` holds back of `also` comes after all that `keep` lets through, then `keep` lets
through a prefix of what `also` does. -/
theorem filter_prefix_filter {α : Type} {keep also : α → Bool} {l : List α}
    (hkeep : ∀ a ∈ l, keep a = true → also a = true)
    (hlater : l.Pairwise fun a b => also a = true → keep b = true → keep a = true) :
    l.filter keep <+: l.filter also := by
  induction l with
  | nil => exact List.prefix_rfl
  | cons a l ih =>
    rw [List.pairwise_cons] at hlater
    have hrest := ih (fun b hb => hkeep b (List.mem_cons_of_mem _ hb)) hlater.2
    cases hk : keep a with
    | true =>
      rw [List.filter_cons_of_pos hk, List.filter_cons_of_pos (hkeep a (List.mem_cons_self ..) hk)]
      exact (List.prefix_cons_inj a).mpr hrest
    | false =>
      rw [List.filter_cons_of_neg (by simp [hk])]
      cases ha : also a with
      | false => rwa [List.filter_cons_of_neg (by simp [ha])]
      | true =>
        -- nothing that comes later is let through
        have hnone : l.filter keep = [] := by
          rw [List.filter_eq_nil_iff]
          intro b hb hkb
          rw [hlater.1 b hb ha hkb] at hk
          cases hk
        rw [hnone]
        exact List.nil_prefix

namespace ControlPlane

/-- The queue as calls with their signals. -/
def line (p : ControlPlane) : List (CallId × Signal) :=
  p.turns.map fun t => (t.call, t.signal)

variable {p q : ControlPlane} {now : Timestamp} {event : Event} {call : CallId} {command : Command}
  {turn : Nat} {accepted : Snapshot}

theorem line_setTurn (p : ControlPlane) (turn : Nat) (status : TurnStatus) :
    (p.setTurn turn status).line = p.line :=
  map_setTurn (fun call signal => (call, signal)) p turn status

theorem getElem?_line {t : Turn} (h : p.turns[turn]? = some t) :
    p.line[turn]? = some (t.call, t.signal) := by
  rw [line, List.getElem?_map, h, Option.map_some]

/-! ### What an event tells of commits and signals -/

/-- What an event adds to the accepted commands and to the signals that have begun. -/
inductive Telling (p q : ControlPlane) (notes : Journal) : Prop
  | nothing (hcommits : notes.commits = []) (hsignals : notes.signals = [])
      (hline : q.line = p.line)
  | commit {call : CallId} {command : Command} {signal : Signal}
      (hcall : p.calls[call]? = some ⟨command, .made⟩)
      (hcommits : notes.commits = [(call, signal)]) (hsignals : notes.signals = [])
      (hturns : q.turns = p.turns ++ [⟨call, signal, .held⟩])
  | commitAndBegin {call : CallId} {command : Command} {signal : Signal} {first : Journal}
      (hcall : p.calls[call]? = some ⟨command, .made⟩) (hcome : p.hasCome p.turns.length = true)
      (hnotes : notes = first ++ [.began call signal])
      (hcommits : first.commits = [(call, signal)]) (hsignals : first.signals = [])
      (hturns : q.turns = p.turns ++ [⟨call, signal, .held⟩])
  | begin {call : CallId} {command : Command} {turn : Nat} {accepted : Snapshot} {signal : Signal}
      (hcall : p.calls[call]? = some ⟨command, .waiting turn accepted⟩)
      (hcome : p.hasCome turn = true) (hturn : p.turns[turn]? = some ⟨call, signal, .held⟩)
      (hnotes : notes = [.began call signal]) (hturns : q.turns = p.turns)

/-- The commits of an accepted command with a signal. -/
theorem commits_of_accepted {next : Snapshot} {signal : Signal}
    (hrule : (command.rule.apply p.snapshot now).isAccepted = true)
    (hnext : next = (command.rule.apply p.snapshot now).after p.snapshot)
    (hsignal : command.signal? next = some signal) :
    (p.commitNotes now call command.rule).commits = [(call, signal)] := by
  subst hnext
  rw [commits_commitNotes, if_pos hrule, command.signal?_rule _ _ hrule, hsignal]
  rfl

theorem Step.telling (hstep : Step p now event q) (hp : p.Queued) :
    ∃ notes, q.journal = p.journal ++ notes ∧ Telling p q notes := by
  cases hstep with
  | make command => exact ⟨_, rfl, .nothing rfl rfl rfl⟩
  | reject hcall hrule hresult =>
    refine ⟨_, rfl, .nothing ?_ ?_ rfl⟩
    · rw [commits_append, commits_commitNotes, hrule]
      rfl
    · rw [signals_append, signals_commitNotes]
      rfl
  | @report call command next result hcall hrule hnext hsignal hresult =>
    refine ⟨_, rfl, .nothing ?_ ?_ rfl⟩
    · subst hnext
      rw [commits_append, commits_commitNotes, if_pos hrule, command.signal?_rule _ _ hrule,
        hsignal, commits_append, (silent_reportNotes _ _ _).commits]
      rfl
    · rw [signals_append, signals_commitNotes, signals_append, (silent_reportNotes _ _ _).signals]
      rfl
  | enter hcall hrule hnext hsignal hcome =>
    exact ⟨_, rfl, .commitAndBegin hcall hcome rfl (commits_of_accepted hrule hnext hsignal)
      (signals_commitNotes ..) rfl⟩
  | queue hcall hrule hnext hsignal hcome =>
    exact ⟨_, rfl, .commit hcall (commits_of_accepted hrule hnext hsignal)
      (signals_commitNotes ..) rfl⟩
  | wake hcall hturn hcome =>
    obtain ⟨signal, hheld, _⟩ := hp.holds hcall rfl
    obtain rfl := Option.some.inj (hturn.symm.trans hheld)
    exact ⟨_, rfl, .begin hcall hcome hturn rfl rfl⟩
  | fail hcall hresult =>
    exact ⟨_, rfl, .nothing rfl rfl (line_setTurn ..)⟩
  | deliver hcall hfinal hresult =>
    exact ⟨_, rfl, .nothing rfl rfl (line_setTurn ..)⟩
  | complete hcall hfinal hnext hresult =>
    refine ⟨_, rfl, .nothing ?_ ?_ (line_setTurn ..)⟩
    · rw [← List.singleton_append, commits_append, commits_append, commits_commitNotes]
      split_ifs <;> rfl
    · rw [← List.singleton_append, signals_append, signals_append, signals_commitNotes]
      rfl
  | withdraw hcall => exact ⟨_, rfl, .nothing rfl rfl rfl⟩
  | miss hcall hcome =>
    exact ⟨_, rfl, .nothing rfl rfl (line_setTurn ..)⟩
  | leave hcall hcome =>
    exact ⟨_, rfl, .nothing rfl rfl (line_setTurn ..)⟩
  | interrupt hcall =>
    exact ⟨_, rfl, .nothing rfl rfl (line_setTurn ..)⟩
  | handOver hturn hstatus hcome =>
    exact ⟨[], (List.append_nil _).symm,
      .nothing rfl rfl (line_setTurn ..)⟩

/-! ### The signals that have begun -/

/-- The queue, the accepted commands and the signals that have begun fit. -/
structure Ordered (p : ControlPlane) : Prop where
  /-- The accepted commands stand in the queue in the order in which they were accepted. -/
  commits : p.journal.commits = p.line
  /-- The signals that have begun are those of the accepted commands, in the same order. -/
  signals : p.journal.signals = p.journal.commits.filter fun e => p.journal.hasBegun e.1
  /-- A signal begins only when its turn has come. -/
  come : ∀ {turn : Nat} {t : Turn}, p.turns[turn]? = some t → p.journal.hasBegun t.call = true →
    p.hasCome turn = true

/-- The signal of a call that waits, or has not run, has not begun. -/
theorem Lives.not_hasBegun (hp : p.Lives) {phase : Phase}
    (hcall : p.calls[call]? = some ⟨command, phase⟩)
    (hphase : phase = .made ∨ ∃ turn accepted, phase = .waiting turn accepted) :
    p.journal.hasBegun call = false := by
  rw [← hasBegun_about]
  exact (hp.life hcall).not_hasBegun (by simpa using hphase)

theorem Telling.commits {notes : Journal} (htell : Telling p q notes)
    (hjournal : q.journal = p.journal ++ notes) (hp : p.Ordered) : q.journal.commits = q.line := by
  rw [hjournal, commits_append, hp.commits]
  cases htell with
  | nothing hcommits hsignals hline => rw [hcommits, List.append_nil, hline]
  | commit hcall hcommits hsignals hturns =>
    rw [hcommits, line, line, hturns, List.map_append]
    rfl
  | commitAndBegin hcall hcome hnotes hcommits hsignals hturns =>
    rw [hnotes, commits_append, hcommits, line, line, hturns, List.map_append]
    rfl
  | begin hcall hcome hturn hnotes hturns =>
    rw [hnotes, line, line, hturns]
    exact List.append_nil _

/-- The turns after one that is held have not begun their signals. -/
theorem Ordered.not_hasBegun_of_lt (hp : p.Ordered) (hqueued : p.Queued) {later : Nat}
    {t t' : Turn} (hturn : p.turns[turn]? = some t) (hheld : t.status = .held)
    (hlater : p.turns[later]? = some t') (hlt : turn < later) :
    p.journal.hasBegun t'.call = false := by
  rw [Bool.eq_false_iff]
  intro hbegun
  -- the later turn would have come, so this one would have been given up
  obtain ⟨s, hs, hreleased⟩ := hqueued.hasCome_iff.mp (hp.come hlater hbegun) turn hlt
  rw [hturn, Option.some.injEq] at hs
  subst hs
  rw [hheld] at hreleased
  cases hreleased

/-- Which of some other calls have begun their signals, before and after one more signal. -/
theorem filter_hasBegun_append {l : List (CallId × Signal)} {journal : Journal} {signal : Signal}
    (h : ∀ e ∈ l, e.1 ≠ call) :
    (l.filter fun e => hasBegun (journal ++ [.began call signal]) e.1) =
      l.filter fun e => journal.hasBegun e.1 := by
  apply List.filter_congr
  intro e he
  simp [(h e he).symm]

/-- The queue around a turn: before it, and after it. -/
theorem line_eq_append (hqueued : p.Queued) {signal : Signal} {status : TurnStatus}
    (hturn : p.turns[turn]? = some ⟨call, signal, status⟩) :
    ∃ earlier later, p.line = earlier ++ (call, signal) :: later ∧
      (∀ e ∈ earlier ++ later, e.1 ≠ call) ∧
      (∀ e ∈ earlier, ∃ i < turn, ∃ t, p.turns[i]? = some t ∧ t.call = e.1) ∧
      (∀ e ∈ later, ∃ i > turn, ∃ t, p.turns[i]? = some t ∧ t.call = e.1) := by
  have hlt : turn < p.line.length := by
    rw [line, List.length_map]
    exact (List.getElem?_eq_some_iff.mp hturn).1
  have hsplit : p.line = p.line.take turn ++ (call, signal) :: p.line.drop (turn + 1) := by
    have hget := (List.getElem?_eq_some_iff.mp (getElem?_line hturn)).2
    conv_lhs => rw [← List.take_append_drop turn p.line, List.drop_eq_getElem_cons hlt, hget]
  refine ⟨_, _, hsplit, ?_, ?_, ?_⟩
  · have hdistinct : (p.line.map Prod.fst).Nodup := by
      rw [line, List.map_map]
      exact hqueued.distinct
    rw [hsplit, List.map_append, List.map_cons, List.nodup_middle, List.nodup_cons,
      ← List.map_append] at hdistinct
    intro e he heq
    exact hdistinct.1 (List.mem_map.mpr ⟨e, he, heq⟩)
  · intro e he
    obtain ⟨i, hi⟩ := List.mem_iff_getElem?.mp he
    rw [List.getElem?_take] at hi
    split_ifs at hi with hlt
    rw [line, List.getElem?_map, Option.map_eq_some_iff] at hi
    obtain ⟨t, ht, rfl⟩ := hi
    exact ⟨i, hlt, t, ht, rfl⟩
  · intro e he
    obtain ⟨i, hi⟩ := List.mem_iff_getElem?.mp he
    rw [List.getElem?_drop, line, List.getElem?_map, Option.map_eq_some_iff] at hi
    obtain ⟨t, ht, rfl⟩ := hi
    exact ⟨turn + 1 + i, by omega, t, ht, rfl⟩

theorem Queued.line_ne (hqueued : p.Queued) (hcall : p.calls[call]? = some ⟨command, .made⟩) :
    ∀ e ∈ p.line, e.1 ≠ call := by
  intro e he
  obtain ⟨t, ht, rfl⟩ := List.mem_map.mp he
  obtain ⟨turn, hturn⟩ := List.mem_iff_getElem?.mp ht
  exact hqueued.call_ne hcall hturn

theorem Telling.signals {notes : Journal} (htell : Telling p q notes)
    (hjournal : q.journal = p.journal ++ notes) (hqueued : p.Queued) (hlives : p.Lives)
    (hp : p.Ordered) :
    q.journal.signals = q.journal.commits.filter fun e => q.journal.hasBegun e.1 := by
  rw [hjournal]
  cases htell with
  | nothing hcommits hsignals hline =>
    rw [signals_append, commits_append, hsignals, hcommits, List.append_nil, List.append_nil,
      hp.signals]
    simp only [hasBegun_append, hasBegun_eq_false hsignals, Bool.or_false]
  | commit hcall hcommits hsignals hturns =>
    rw [signals_append, commits_append, hsignals, hcommits, List.append_nil, hp.signals]
    simp only [hasBegun_append, hasBegun_eq_false hsignals, Bool.or_false, List.filter_append]
    rw [List.filter_cons_of_neg (by simp [hlives.not_hasBegun hcall (Or.inl rfl)]),
      List.filter_nil, List.append_nil]
  | @commitAndBegin call command signal first hcall hcome hnotes hcommits hsignals hturns =>
    have hother : ∀ e ∈ p.journal.commits, e.1 ≠ call := hp.commits ▸ hqueued.line_ne hcall
    rw [hnotes, ← List.append_assoc, signals_append, commits_append, List.filter_append,
      signals_append, commits_append, List.filter_append, hsignals, hcommits,
      filter_hasBegun_append hother, List.append_nil, hp.signals]
    simp [hasBegun_eq_false hsignals, Journal.signals, Journal.commits, Note.commit?]
  | begin hcall hcome hturn hnotes hturns =>
    obtain ⟨earlier, later, hline, hother, _, hlater⟩ := line_eq_append hqueued hturn
    -- the signal that begins comes after those that have begun, as none behind it has
    have hnone : later.filter (fun e => p.journal.hasBegun e.1) = [] := by
      rw [List.filter_eq_nil_iff]
      intro e he
      obtain ⟨i, hi, t, ht, hcall⟩ := hlater e he
      rw [← hcall, hp.not_hasBegun_of_lt hqueued hturn rfl ht hi]
      exact Bool.false_ne_true
    have hbefore : p.journal.hasBegun _ = false :=
      hlives.not_hasBegun hcall (Or.inr ⟨_, _, rfl⟩)
    rw [List.forall_mem_append] at hother
    rw [hnotes, signals_append, commits_append, hp.signals, hp.commits, hline]
    simp only [List.filter_append, List.filter_cons, hnone, hbefore, Journal.commits,
      Note.commit?, List.filterMap_cons, List.filterMap_nil, List.append_nil,
      filter_hasBegun_append hother.1, filter_hasBegun_append hother.2]
    simp [hbefore, Journal.signals]

theorem Telling.come {notes : Journal} (htell : Telling p q notes) (hmove : Move p q)
    (hjournal : q.journal = p.journal ++ notes) (hqueued : p.Queued) (hlives : p.Lives)
    (hp : p.Ordered) {t : Turn} (hturn : q.turns[turn]? = some t)
    (hbegun : q.journal.hasBegun t.call = true) : q.hasCome turn = true := by
  apply hmove.hasCome hqueued
  rw [hjournal, hasBegun_append] at hbegun
  cases htell with
  | nothing hcommits hsignals hline =>
    rw [hasBegun_eq_false hsignals, Bool.or_false] at hbegun
    have hplace := getElem?_line hturn
    rw [hline, line, List.getElem?_map, Option.map_eq_some_iff] at hplace
    obtain ⟨t', ht', heq⟩ := hplace
    rw [← (Prod.mk.inj heq).1] at hbegun
    exact hp.come ht' hbegun
  | @commit joined command signal hcall hcommits hsignals hturns =>
    rw [hasBegun_eq_false hsignals, Bool.or_false] at hbegun
    rw [hturns, List.getElem?_append] at hturn
    split_ifs at hturn
    · exact hp.come hturn hbegun
    · -- the last turn is that of a call that has just run
      rw [List.getElem?_singleton] at hturn
      split_ifs at hturn
      rw [← Option.some.inj hturn] at hbegun
      rw [hlives.not_hasBegun hcall (Or.inl rfl)] at hbegun
      cases hbegun
  | @commitAndBegin joined command signal first hcall hcome hnotes hcommits hsignals hturns =>
    rw [hturns, List.getElem?_append] at hturn
    split_ifs at hturn with hlt
    · rw [hnotes, hasBegun_append, hasBegun_eq_false hsignals, hasBegun_began, Bool.false_or,
        decide_eq_false (hqueued.call_ne hcall hturn).symm, Bool.or_false] at hbegun
      exact hp.come hturn hbegun
    · rw [List.getElem?_singleton] at hturn
      split_ifs at hturn
      rwa [show turn = p.turns.length by omega]
  | begin hcall hcome hheld hnotes hturns =>
    rw [hturns] at hturn
    rw [hnotes, hasBegun_began, Bool.or_eq_true, decide_eq_true_eq] at hbegun
    rcases hbegun with hbegun | heq
    · exact hp.come hturn hbegun
    · rwa [hqueued.turn_eq hcall rfl hturn heq.symm]

/-- Every event leaves the queue, the accepted commands and the signals that have begun fitting. -/
theorem Step.ordered (hstep : Step p now event q) (hqueued : p.Queued) (hlives : p.Lives)
    (hp : p.Ordered) : q.Ordered := by
  obtain ⟨notes, hjournal, htell⟩ := hstep.telling hqueued
  exact ⟨htell.commits hjournal hp, htell.signals hjournal hqueued hlives hp,
    htell.come (hstep.move hqueued) hjournal hqueued hlives hp⟩

theorem Reachable.ordered {first : Snapshot} (h : Reachable first p) : p.Ordered := by
  refine h.induction ⟨rfl, rfl, ?_⟩ fun _ _ _ _ hreach hp hstep =>
    hstep.ordered hreach.queued hreach.lives hp
  intro turn t hturn
  simp [idle] at hturn

/-! ### What comes before a signal -/

/-- When a signal begins, no signal is in progress, and every command that was accepted before it is
over: its signal has ended, or its call was cancelled. -/
def BeginsInTurn (before : Journal) (note : Note) : Prop :=
  ∀ call signal, note = .began call signal →
    (∀ other, before.isInProgress other = false) ∧
      ∃ earlier later, before.commits = earlier ++ (call, signal) :: later ∧
        ∀ e ∈ earlier, before.isOver e.1 = true

/-- The call of a turn that was given up is over. -/
theorem Ordered.isOver_of_isReleased (hp : p.Ordered) (hqueued : p.Queued) (hlives : p.Lives)
    {t : Turn} (hturn : p.turns[turn]? = some t) (h : p.IsReleased turn) :
    p.journal.isOver t.call = true := by
  obtain ⟨t', ht', hstatus⟩ := h
  obtain rfl := Option.some.inj (hturn.symm.trans ht')
  obtain ⟨command, phase, hcall, _, hdone⟩ := hqueued.held hturn
  have hcommit : (t.call, t.signal) ∈ p.journal.commits := by
    rw [hp.commits]
    exact List.mem_of_getElem? (getElem?_line hturn)
  rw [← isOver_about]
  exact (hlives.life hcall).isOver_of_isDone (hdone (by rw [hstatus]; decide))
    (List.ne_nil_of_mem (mem_commits_about hcommit))

/-- A signal that has begun is that of a turn. -/
theorem Ordered.exists_turn (hp : p.Ordered) (hbegun : p.journal.hasBegun call = true) :
    ∃ (turn : Nat) (t : Turn), p.turns[turn]? = some t ∧ t.call = call := by
  rw [hasBegun_iff_mem_signals, hp.signals, List.mem_map] at hbegun
  obtain ⟨e, he, rfl⟩ := hbegun
  obtain ⟨t, ht, rfl⟩ := List.mem_map.mp (hp.commits ▸ List.mem_of_mem_filter he)
  obtain ⟨turn, hturn⟩ := List.mem_iff_getElem?.mp ht
  exact ⟨turn, t, hturn, rfl⟩

/-- When a turn has come and its signal has not begun, no signal is in progress. -/
theorem Ordered.not_isInProgress (hp : p.Ordered) (hqueued : p.Queued) (hlives : p.Lives)
    (hcome : p.hasCome turn = true)
    (hnew : ∀ t, p.turns[turn]? = some t → p.journal.hasBegun t.call = false)
    (hlater : ∀ later > turn, ∀ t, p.turns[later]? = some t → p.journal.hasBegun t.call = false)
    (other : CallId) : p.journal.isInProgress other = false := by
  rw [Bool.eq_false_iff, isInProgress]
  intro hprogress
  rw [Bool.and_eq_true, Bool.not_eq_true'] at hprogress
  obtain ⟨hbegun, hover⟩ := hprogress
  obtain ⟨i, t, hturn, rfl⟩ := hp.exists_turn hbegun
  -- a signal of an earlier turn is over, and one of this turn or a later one has not begun
  rcases Nat.lt_trichotomy i turn with hlt | rfl | hgt
  · rw [hp.isOver_of_isReleased hqueued hlives hturn (hqueued.hasCome_iff.mp hcome i hlt)] at hover
    cases hover
  · rw [hnew t hturn] at hbegun
    cases hbegun
  · rw [hlater i hgt t hturn] at hbegun
    cases hbegun

/-- Entries that begin no signal are in turn. -/
theorem throughout_beginsInTurn {journal notes : Journal} (h : notes.signals = []) :
    Throughout (fun before => BeginsInTurn (journal ++ before)) notes := by
  refine Throughout.of_filterMap h fun before note hnone => ?_
  rintro call signal rfl
  cases hnone

theorem Telling.beginsInTurn {notes : Journal} (htell : Telling p q notes)
    (hqueued : p.Queued) (hlives : p.Lives) (hp : p.Ordered) :
    Throughout (fun before => BeginsInTurn (p.journal ++ before)) notes := by
  cases htell with
  | nothing hcommits hsignals hline => exact throughout_beginsInTurn hsignals
  | commit hcall hcommits hsignals hturns => exact throughout_beginsInTurn hsignals
  | @commitAndBegin joined command signal first hcall hcome hnotes hcommits hsignals hturns =>
    rw [hnotes, throughout_concat]
    refine ⟨throughout_beginsInTurn hsignals, ?_⟩
    rintro call signal' heq
    cases heq
    -- the call takes the last turn, so all turns before it were given up
    refine ⟨fun other => ?_, p.line, [], by rw [commits_append, hp.commits, hcommits], ?_⟩
    · have hnone := hp.not_isInProgress hqueued hlives hcome (by simp)
        (fun later hlt t ht => absurd (List.getElem?_eq_some_iff.mp ht).1 (by omega)) other
      rw [isInProgress, hasBegun_append, hasBegun_eq_false hsignals, Bool.or_false, isOver_append]
      rw [isInProgress] at hnone
      cases hbegun : p.journal.hasBegun other with
      | false => rfl
      | true => simp_all
    · intro e he
      obtain ⟨t, ht, rfl⟩ := List.mem_map.mp he
      obtain ⟨i, hi⟩ := List.mem_iff_getElem?.mp ht
      have hlt : i < p.turns.length := (List.getElem?_eq_some_iff.mp hi).1
      rw [isOver_append, hp.isOver_of_isReleased hqueued hlives hi
        (hqueued.hasCome_iff.mp hcome i hlt), Bool.true_or]
  | begin hcall hcome hturn hnotes hturns =>
    obtain ⟨earlier, later, hline, _, hearlier, _⟩ := line_eq_append hqueued hturn
    rw [hnotes, ← List.nil_append [Note.began _ _], throughout_concat]
    refine ⟨throughout_nil, ?_⟩
    rintro call signal' heq
    cases heq
    rw [List.append_nil]
    refine ⟨?_, earlier, later, by rw [hp.commits, hline], ?_⟩
    · refine hp.not_isInProgress hqueued hlives hcome ?_
        fun later hlt t ht => hp.not_hasBegun_of_lt hqueued hturn rfl ht hlt
      intro t ht
      obtain rfl := Option.some.inj (hturn.symm.trans ht)
      exact hlives.not_hasBegun hcall (Or.inr ⟨_, _, rfl⟩)
    · intro e he
      obtain ⟨i, hi, t, ht, heq⟩ := hearlier e he
      rw [← heq]
      exact hp.isOver_of_isReleased hqueued hlives ht (hqueued.hasCome_iff.mp hcome i hi)

theorem Reachable.beginsInTurn {first : Snapshot} (h : Reachable first p) :
    p.journal.Throughout BeginsInTurn := by
  refine h.induction (motive := fun p => p.journal.Throughout BeginsInTurn) throughout_nil ?_
  intro p now event q hreach hp hstep
  obtain ⟨notes, hjournal, htell⟩ := hstep.telling hreach.queued
  rw [hjournal, throughout_append]
  exact ⟨hp, htell.beginsInTurn hreach.queued hreach.lives hreach.ordered⟩

/-- A signal comes to be in progress only by beginning. -/
theorem isInProgress_concat {journal : Journal} {note : Note}
    (h : isInProgress (journal ++ [note]) call = true) :
    journal.isInProgress call = true ∨ ∃ signal, note = .began call signal := by
  rw [isInProgress, Bool.and_eq_true, hasBegun_append, Bool.or_eq_true, isOver_append,
    Bool.not_eq_true', Bool.or_eq_false_iff] at h
  obtain ⟨hbegun | hbegun, hover, _⟩ := h
  · left
    rw [isInProgress, hbegun, hover]
    rfl
  · right
    obtain ⟨signal, hmem⟩ := hasBegun_iff.mp hbegun
    exact ⟨signal, (List.mem_singleton.mp hmem).symm⟩

/-- If every signal begins in turn, no two are in progress at the same time. -/
theorem eq_of_isInProgress {journal : Journal} (h : journal.Throughout BeginsInTurn)
    {one other : CallId} (hone : journal.isInProgress one = true)
    (hother : journal.isInProgress other = true) : one = other := by
  induction journal using List.reverseRecOn with
  | nil => cases hone
  | append_singleton journal note ih =>
    rw [throughout_concat] at h
    rcases isInProgress_concat hone with h₁ | ⟨signal, rfl⟩
    · rcases isInProgress_concat hother with h₂ | ⟨signal, rfl⟩
      · exact ih h.1 h₁ h₂
      · rw [(h.2 other signal rfl).1 one] at h₁
        cases h₁
    · rcases isInProgress_concat hother with h₂ | ⟨signal', heq⟩
      · rw [(h.2 one signal rfl).1 other] at h₂
        cases h₂
      · exact (Note.began.inj heq).1

/-! ### The order of the signals -/

/-- What comes before a signal that has begun has begun itself or left the queue. -/
theorem Ordered.hasBegun_or_leftQueue (hp : p.Ordered) (hqueued : p.Queued) (hlives : p.Lives)
    {earlier later : Nat} {t t' : Turn} (hlt : earlier < later)
    (ht : p.turns[earlier]? = some t) (ht' : p.turns[later]? = some t')
    (hbegun : p.journal.hasBegun t'.call = true) :
    p.journal.hasBegun t.call = true ∨ p.journal.leftQueue t.call = true := by
  have hreleased := hqueued.hasCome_iff.mp (hp.come ht' hbegun) earlier hlt
  have hover := hp.isOver_of_isReleased hqueued hlives ht hreleased
  cases hb : p.journal.hasBegun t.call with
  | true => exact Or.inl rfl
  | false =>
    right
    -- a signal that has not begun has not ended, so the call was cancelled
    have hended : p.journal.hasEnded t.call = false := by
      rw [Bool.eq_false_iff]
      intro hended
      rw [← hasEnded_about] at hended
      have hcontra := (hlives t.call).hasBegun_of_hasEnded hended
      rw [hasBegun_about, hb] at hcontra
      cases hcontra
    rw [isOver, hended, Bool.false_or] at hover
    rw [leftQueue, hover, hb]
    rfl

theorem Ordered.signals_prefix_commits (hp : p.Ordered) (hqueued : p.Queued) (hlives : p.Lives) :
    p.journal.signals <+: p.journal.commits.filter fun e => !p.journal.leftQueue e.1 := by
  rw [hp.signals]
  apply filter_prefix_filter
  · intro e _ hbegun
    simp [leftQueue, hbegun]
  · rw [hp.commits, line, List.pairwise_map, List.pairwise_iff_getElem]
    intro i j hi hj hlt hkept hbegun
    have hbefore := hp.hasBegun_or_leftQueue hqueued hlives hlt (List.getElem?_eq_getElem hi)
      (List.getElem?_eq_getElem hj) hbegun
    simp_all

/-- No call has two commands accepted. -/
theorem Ordered.nodup_commits (hp : p.Ordered) (hqueued : p.Queued) :
    (p.journal.commits.map Prod.fst).Nodup := by
  rw [hp.commits, line, List.map_map]
  exact hqueued.distinct

theorem Ordered.nodup_signals (hp : p.Ordered) (hqueued : p.Queued) :
    (p.journal.signals.map Prod.fst).Nodup := by
  rw [hp.signals]
  exact (hp.nodup_commits hqueued).sublist (List.filter_sublist.map _)

theorem Lives.not_mem_signals_of_rejected (hp : p.Lives) {rule : Rule} {before : Snapshot}
    {rejection : Rejection}
    (hmem : .applied call rule before now (.rejected rejection) ∈ p.journal)
    (hrule : rule ≠ .completeFinalize) : call ∉ p.journal.signals.map Prod.fst := by
  have hnone := (hp call).not_hasBegun_of_rejected ((mem_about rfl).mpr hmem) hrule rfl
  rw [hasBegun_about] at hnone
  rw [← hasBegun_iff_mem_signals, hnone]
  exact Bool.false_ne_true

/-- A signal in progress is that of a call whose phase says so. -/
theorem Lives.isInProgress_iff (hp : p.Lives) :
    p.journal.isInProgress call = true ↔
      ∃ command turn accepted, p.calls[call]? = some ⟨command, .signalling turn accepted⟩ := by
  have habout : p.journal.isInProgress call = (p.journal.about call).isInProgress call := by
    rw [isInProgress, isInProgress, hasBegun_about, isOver_about]
  have hlife := hp call
  rw [habout]
  cases hcall : p.calls[call]? with
  | none =>
    rw [hcall] at hlife
    simp [hlife.eq_nil, isInProgress, hasBegun]
  | some c =>
    obtain ⟨command, phase⟩ := c
    rw [hcall] at hlife
    rw [hlife.isInProgress_iff]
    simp

/-- An accepted command is told of with the signal that is due for it. -/
theorem exists_applied_of_mem_commits {journal : Journal} {signal : Signal}
    (h : (call, signal) ∈ journal.commits) :
    ∃ rule before now outcome, .applied call rule before now outcome ∈ journal ∧
      outcome.isAccepted = true ∧ rule.signal? (outcome.after before) = some signal := by
  obtain ⟨note, hmem, hnote⟩ := List.mem_filterMap.mp h
  obtain ⟨rule, before, now, outcome, rfl, haccepted, hsignal⟩ := Note.commit?_eq_some.mp hnote
  exact ⟨rule, before, now, outcome, hmem, haccepted, hsignal⟩

/-- **Signals follow the order of the commits**, in every run from any snapshot.  At every moment at
most one signal is in progress, and one begins only when every command accepted before it is over.  The
signals begun so far are a prefix of the accepted commands less those that were cancelled in the queue;
no command is signalled twice, none that was rejected is, and each signal is due for the rule of its own
call and the snapshot to which this rule has led. -/
theorem signals_follow_commits {first : Snapshot} (h : Reachable first p) :
    (∀ moment : Journal, moment <+: p.journal → ∀ one other, moment.isInProgress one = true →
      moment.isInProgress other = true → one = other) ∧
    (∀ call, p.journal.isInProgress call = true ↔
      ∃ command turn accepted, p.calls[call]? = some ⟨command, .signalling turn accepted⟩) ∧
    p.journal.Throughout BeginsInTurn ∧
    p.journal.signals <+: (p.journal.commits.filter fun e => !p.journal.leftQueue e.1) ∧
    (p.journal.signals.map Prod.fst).Nodup ∧
    (∀ call rule before now rejection,
      .applied call rule before now (.rejected rejection) ∈ p.journal → rule ≠ .completeFinalize →
      call ∉ p.journal.signals.map Prod.fst) ∧
    ∀ call signal, (call, signal) ∈ p.journal.signals → ∃ rule before now outcome,
      .applied call rule before now outcome ∈ p.journal ∧ outcome.isAccepted = true ∧
        rule.signal? (outcome.after before) = some signal := by
  have hqueued := h.queued
  have hlives := h.lives
  have hordered := h.ordered
  have hturns := h.beginsInTurn
  refine ⟨?_, fun _ => hlives.isInProgress_iff, hturns, hordered.signals_prefix_commits hqueued hlives,
    hordered.nodup_signals hqueued, ?_, ?_⟩
  · intro moment hmoment one other hone hother
    exact eq_of_isInProgress (hturns.mono hmoment) hone hother
  · intro call rule before now rejection hmem hrule
    exact hlives.not_mem_signals_of_rejected hmem hrule
  · -- a signal that has begun is that of an accepted command
    intro call signal hmem
    rw [hordered.signals] at hmem
    exact exists_applied_of_mem_commits (List.mem_of_mem_filter hmem)

/-- A pause is signalled while a resume and a finalize wait.  The resume is cancelled, and the signal of
the finalize begins only once that of the pause has ended. -/
theorem signals_follow_commits_past_cancelled_waiter :
    ∃ p, (idle (.fresh default)).runAll (atOnce default
        [.make (.start [] []), .run 0, .finish 0 none, .make .pause, .run 1,
          .make (.resume false), .run 2, .make (.finalize false), .run 3, .cancel 2,
          .finish 1 none, .handOver 2, .wake 3]) = some p ∧
      (p.journal.commits.map Prod.fst = [0, 1, 2, 3] ∧ p.journal.leftQueue 2 = true ∧
        p.journal.signals = [(0, .start {}), (1, .pause), (3, .finalize false)]) ∧
      p.journal.signals <+: p.journal.commits.filter fun e => !p.journal.leftQueue e.1 :=
  exists_run_and (fun _ hrun _ => (signals_follow_commits ⟨_, hrun⟩).2.2.2.1) ⟨_, rfl, rfl, rfl, rfl⟩

end ControlPlane

end Cutover
