import Cutover.Audit.Trail
import Cutover.Proofs.LogLine

/-!
# What the file of an audit trail holds

The file of an audit trail holds a line for every event that was logged through any trail of the process while
its own trail was open, and nothing else: main statement `Audit.Trails.file_tells_all_heard`.  So it holds the
events of its own trail alone exactly if no other trail was used in that time.

Before the trail is opened no writer has the file (`IsQuiet`); from then on to its closing exactly one has,
the trail's (`IsOwned`); and afterwards none has again.  Each of them is kept by what is done in its time
(`isQuiet_apply`, `isOwned_apply`), and what a step adds to the file is known in each of them.
-/

namespace Cutover

namespace Text

theorem linesText_append (lines more : List String) :
    linesText (lines ++ more) = linesText lines ++ linesText more := by
  rw [linesText, List.flatMap_append, String.ofList_append]
  rfl

/-- Lines without breaks of their own are known from their text. -/
theorem linesText_inj {lines others : List String} (hlines : ∀ line ∈ lines, '\n' ∉ line.toList)
    (hothers : ∀ line ∈ others, '\n' ∉ line.toList) :
    linesText lines = linesText others ↔ lines = others := by
  constructor
  · intro h
    have hsplit : lines ++ [""] = others ++ [""] := by
      rw [← splitText_linesText hlines, h, splitText_linesText hothers]
    exact List.append_cancel_right hsplit
  · rintro rfl
    rfl

end Text

namespace Audit

namespace Operation

/-- The trail and the entry of an event that is logged. -/
def logged? : Operation → Option (Nat × Log.Entry)
  | .logged trail now event => some (trail, .ofEvent now event)
  | _ => none

/-- Whether a trail is opened. -/
def isOpening : Operation → Bool
  | .opened _ => true
  | _ => false

/-- Whether a trail is closed. -/
def closes (trail : Nat) : Operation → Bool
  | .closed other => other = trail
  | _ => false

/-- How many trails are opened. -/
def openings (operations : List Operation) : Nat :=
  operations.countP isOpening

/-- What is logged through any trail until a trail is closed. -/
def heard (trail : Nat) (operations : List Operation) : List (Nat × Log.Entry) :=
  (operations.takeWhile (!·.closes trail)).filterMap logged?

end Operation

namespace Trails

open Text (linesText linesText_append)

variable {trails : Trails} {file text content : String} {files : List String} {trail : Nat}
  {operation : Operation} {operations : List Operation}

/-! ### One step -/

/-- No writer has a file. -/
def IsQuiet (trails : Trails) (file : String) : Prop :=
  ∀ writer ∈ trails.writers, writer.file ≠ file

/-- The writer of a trail, and no other one, has a file. -/
def IsOwned (trails : Trails) (trail : Nat) (file : String) : Prop :=
  trails.writers.filter (·.file = file) = [⟨trail, file⟩]

theorem foldl_append_writers : (files.foldl (append · text) trails).writers = trails.writers := by
  induction files generalizing trails with
  | nil => rfl
  | cons other files ih => rw [List.foldl_cons, ih, append_writers]

theorem foldl_append_count : (files.foldl (append · text) trails).count = trails.count := by
  induction files generalizing trails with
  | nil => rfl
  | cons other files ih => rw [List.foldl_cons, ih, append_count]

theorem append_files_of_ne {other : String} (h : file ≠ other) :
    (trails.append text other).files file = trails.files file :=
  if_neg h

theorem append_files_self : (trails.append text file).files file =
    some ((trails.files file).getD "" ++ text) :=
  if_pos rfl

theorem foldl_append_files_of_not_mem (h : file ∉ files) :
    (files.foldl (append · text) trails).files file = trails.files file := by
  induction files generalizing trails with
  | nil => rfl
  | cons other files ih =>
    obtain ⟨hother, hfiles⟩ : file ≠ other ∧ file ∉ files := by simpa using h
    rw [List.foldl_cons, ih hfiles, append_files_of_ne hother]

/-- A text that is added to files is added once to one that is among them once. -/
theorem foldl_append_files_of_count (hfiles : files.count file = 1) (h : trails.files file = some content) :
    (files.foldl (append · text) trails).files file = some (content ++ text) := by
  induction files generalizing trails with
  | nil => cases hfiles
  | cons other files ih =>
    rw [List.foldl_cons]
    by_cases hother : file = other
    · subst hother
      have hrest : file ∉ files := by
        rw [List.count_cons_self, Nat.add_eq_right] at hfiles
        exact List.count_eq_zero.mp hfiles
      rw [foldl_append_files_of_not_mem hrest, append_files_self, h]
      rfl
    · rw [List.count_cons_of_ne (Ne.symm hother)] at hfiles
      exact ih hfiles ((append_files_of_ne hother).trans h)

/-- A trail is opened without a writer, or with a writer for the file that was given. -/
theorem opened_cases (trails : Trails) (given : Option String) :
    trails.opened given = { trails with count := trails.count + 1 } ∨
    ∃ name, given = some name ∧ trails.opened given =
      { trails.append "" name with
        count := trails.count + 1
        writers := trails.writers ++ [⟨trails.count, name⟩] } := by
  unfold opened
  cases hgiven : given.filter (· ≠ "") with
  | none => exact .inl rfl
  | some name => exact .inr ⟨name, (Option.filter_eq_some_iff.mp hgiven).1, rfl⟩

theorem apply_count : (trails.apply operation).count =
    trails.count + if operation.isOpening then 1 else 0 := by
  cases operation with
  | opened given =>
    obtain hopened | ⟨name, _, hopened⟩ := trails.opened_cases given
    · rw [apply_opened, hopened]
      rfl
    · rw [apply_opened, hopened]
      rfl
  | logged other now event => exact foldl_append_count
  | closed other => rfl

/-- As long as no writer has a file and no trail is opened with it, nothing is added to it. -/
theorem isQuiet_apply (h : trails.IsQuiet file) (hoperation : operation ≠ .opened (some file)) :
    (trails.apply operation).IsQuiet file ∧ (trails.apply operation).files file = trails.files file := by
  cases operation with
  | opened given =>
    rw [apply_opened]
    obtain hopened | ⟨name, rfl, hopened⟩ := trails.opened_cases given
    · rw [hopened]
      exact ⟨h, rfl⟩
    · have hname : file ≠ name := fun heq => hoperation (heq ▸ rfl)
      rw [hopened]
      exact ⟨List.forall_mem_append.mpr ⟨h, List.forall_mem_singleton.mpr (Ne.symm hname)⟩,
        append_files_of_ne hname⟩
  | logged other now event =>
    have hfiles : file ∉ trails.writers.map (·.file) := by
      rw [List.mem_map]
      rintro ⟨writer, hwriter, rfl⟩
      exact h writer hwriter rfl
    refine ⟨fun writer hwriter => h writer ?_, foldl_append_files_of_not_mem hfiles⟩
    rwa [apply_logged, logged, foldl_append_writers] at hwriter
  | closed other => exact ⟨fun writer hwriter => h writer (List.mem_filter.mp hwriter).1, rfl⟩

/-- As long as the writer of a trail has its file to itself, an event that is logged through any trail is
added to the file. -/
theorem isOwned_apply (h : trails.IsOwned trail file) (hoperation : operation ≠ .opened (some file))
    (hopen : operation.closes trail = false) (hcontent : trails.files file = some content) :
    (trails.apply operation).IsOwned trail file ∧ (trails.apply operation).files file =
      some (content ++ linesText (operation.logged?.toList.map (·.2.line))) := by
  have hnothing : content ++ linesText [] = content := String.append_empty
  unfold IsOwned at h ⊢
  cases operation with
  | opened given =>
    have hlogged : (Operation.opened given).logged?.toList.map (·.2.line) = [] := rfl
    rw [apply_opened, hlogged, hnothing]
    obtain hopened | ⟨name, rfl, hopened⟩ := trails.opened_cases given
    · rw [hopened]
      exact ⟨h, hcontent⟩
    · have hname : file ≠ name := fun heq => hoperation (heq ▸ rfl)
      have hnew : [(⟨trails.count, name⟩ : Writer)].filter (·.file = file) = [] := by
        simp [Ne.symm hname]
      rw [hopened]
      refine ⟨?_, (append_files_of_ne hname).trans hcontent⟩
      rw [List.filter_append, h, hnew, List.append_nil]
  | logged other now event =>
    -- one of the writers that the line goes to has the file, so the line is added to it once
    have hcount : (trails.writers.map (·.file)).count file = 1 := by
      have hone := congrArg List.length h
      rw [← List.countP_eq_length_filter] at hone
      rw [List.count, List.countP_map]
      exact hone
    rw [apply_logged]
    refine ⟨?_, foldl_append_files_of_count hcount hcontent⟩
    rwa [logged, foldl_append_writers]
  | closed other =>
    have hlogged : (Operation.closed other).logged?.toList.map (·.2.line) = [] := rfl
    have hother : trail ≠ other := by
      rintro rfl
      simp [Operation.closes] at hopen
    have hkept : [(⟨trail, file⟩ : Writer)].filter (·.trail ≠ other) = [⟨trail, file⟩] := by
      simp [hother]
    rw [apply_closed, hlogged, hnothing]
    refine ⟨?_, hcontent⟩
    have hswap : (trails.closed other).writers.filter (·.file = file) =
        (trails.writers.filter (·.file = file)).filter (·.trail ≠ other) := by
      rw [closed, List.filter_filter, List.filter_filter]
      exact List.filter_congr fun _ _ => Bool.and_comm _ _
    rw [hswap, h, hkept]

/-- Once the trail is closed, no writer has its file. -/
theorem IsOwned.isQuiet_closed (h : trails.IsOwned trail file) : (trails.closed trail).IsQuiet file := by
  intro writer hwriter heq
  obtain ⟨hmem, hother⟩ := List.mem_filter.mp hwriter
  have hown : writer ∈ trails.writers.filter (·.file = file) :=
    List.mem_filter.mpr ⟨hmem, decide_eq_true heq⟩
  rw [h, List.mem_singleton] at hown
  subst hown
  simp at hother

/-! ### All steps -/

theorem run_count : (trails.run operations).count = trails.count + Operation.openings operations := by
  induction operations generalizing trails with
  | nil => rfl
  | cons operation operations ih =>
    rw [run_cons, ih, apply_count, Operation.openings, Operation.openings, List.countP_cons]
    omega

theorem isQuiet_run (h : trails.IsQuiet file)
    (hoperations : ∀ other ∈ operations, other ≠ .opened (some file)) :
    (trails.run operations).IsQuiet file ∧ (trails.run operations).files file = trails.files file := by
  induction operations generalizing trails with
  | nil => exact ⟨h, rfl⟩
  | cons operation operations ih =>
    obtain ⟨hoperation, hrest⟩ := List.forall_mem_cons.mp hoperations
    obtain ⟨hquiet, hfiles⟩ := isQuiet_apply h hoperation
    rw [run_cons, ← hfiles]
    exact ih hquiet hrest

/-- From the time when the writer of a trail has its file to itself, the file takes on all that is logged
until the trail is closed. -/
theorem files_run_of_isOwned (h : trails.IsOwned trail file)
    (hoperations : ∀ other ∈ operations, other ≠ .opened (some file))
    (hcontent : trails.files file = some content) :
    (trails.run operations).files file =
      some (content ++ linesText ((Operation.heard trail operations).map (·.2.line))) := by
  induction operations generalizing trails content with
  | nil =>
    rw [run_nil, hcontent]
    exact congrArg some String.append_empty.symm
  | cons operation operations ih =>
    obtain ⟨hoperation, hrest⟩ := List.forall_mem_cons.mp hoperations
    rw [run_cons, Operation.heard]
    cases hclose : operation.closes trail with
    | true =>
      -- nothing that is logged from here on reaches the file
      obtain rfl : operation = .closed trail := by
        cases operation with
        | opened | logged => cases hclose
        | closed other => rw [of_decide_eq_true hclose]
      have hnothing : content ++ linesText [] = content := String.append_empty
      rw [List.takeWhile_cons_of_neg (by simp [hclose]), List.filterMap_nil, List.map_nil, hnothing,
        apply_closed, (isQuiet_run h.isQuiet_closed hrest).2, closed_files, hcontent]
    | false =>
      -- what is logged in this step, if anything, is the next line of the file
      obtain ⟨howned, hfiles⟩ := isOwned_apply h hoperation hclose hcontent
      rw [ih howned hrest hfiles, List.takeWhile_cons_of_pos (by simp [hclose]),
        String.append_assoc, ← linesText_append, ← List.map_append, Operation.heard]
      cases hlogged : operation.logged? with
      | none => rw [List.filterMap_cons_none hlogged]; rfl
      | some logged => rw [List.filterMap_cons_some hlogged]; rfl

/-- A trail that is opened with a file which no writer has gets the file to itself. -/
theorem isOwned_opened (h : trails.IsQuiet file) (hfile : file ≠ "") :
    (trails.opened (some file)).IsOwned trails.count file ∧
      (trails.opened (some file)).files file = some ((trails.files file).getD "") := by
  have hgiven : (some file).filter (· ≠ "") = some file := by simp [hfile]
  unfold opened
  rw [hgiven]
  refine ⟨?_, append_files_self.trans (congrArg some String.append_empty)⟩
  have hnone : trails.writers.filter (·.file = file) = [] := by
    rw [List.filter_eq_nil_iff]
    exact fun writer hwriter => by simpa using h writer hwriter
  have hnew : [(⟨trails.count, file⟩ : Writer)].filter (·.file = file) = [⟨trails.count, file⟩] := by simp
  rw [IsOwned, List.filter_append, hnone, hnew, List.nil_append]

/-- The lines of all that was heard are those of what came through one trail only if all of it came
through this one. -/
theorem linesText_filter_iff {heard : List (Nat × Log.Entry)} :
    linesText (heard.map (·.2.line)) = linesText ((heard.filter (·.1 = trail)).map (·.2.line)) ↔
      ∀ other ∈ heard, other.1 = trail := by
  have hlines (entries : List (Nat × Log.Entry)) : ∀ line ∈ entries.map (·.2.line), '\n' ∉ line.toList :=
    List.forall_mem_map.mpr fun entry _ => entry.2.not_mem_line
  rw [Text.linesText_inj (hlines _) (hlines _)]
  constructor
  · intro h
    have hlength : (heard.filter (·.1 = trail)).length = heard.length := by
      simpa using (congrArg List.length h).symm
    simpa using List.length_filter_eq_length_iff.mp hlength
  · intro h
    rw [List.filter_eq_self.mpr (by simpa using h)]

/-- A file with which one trail is opened holds what is logged through any trail until its own is closed. -/
theorem files_run_eq {before after : List Operation} (hfile : file ≠ "")
    (hown : ∀ operation ∈ before ++ after, operation ≠ .opened (some file)) :
    (run {} (before ++ .opened (some file) :: after)).files file =
      some (linesText ((Operation.heard (Operation.openings before) after).map (·.2.line))) := by
  obtain ⟨hbefore, hafter⟩ := List.forall_mem_append.mp hown
  have hfirst : IsQuiet {} file := List.forall_mem_nil _
  obtain ⟨hquiet, hfiles⟩ := isQuiet_run hfirst hbefore
  obtain ⟨howned, hempty⟩ := isOwned_opened hquiet hfile
  have hcount : (run {} before).count = Operation.openings before := by
    rw [run_count]
    exact Nat.zero_add _
  rw [hcount] at howned
  rw [hfiles] at hempty
  rw [run_append, run_cons, apply_opened, files_run_of_isOwned howned hafter hempty]
  exact congrArg some String.empty_append

/-- **What the file of an audit trail holds.**  Whatever is done with the trails of a process, in any order, a
file with which one trail is opened holds a line for each event that was logged through any trail of the
process between the opening and the closing of its own trail, in their order, and nothing else.  So the events
in the file are those of its own trail exactly if every event of that time was logged through it. -/
theorem file_tells_all_heard {before after : List Operation} {heard : List (Nat × Log.Entry)}
    (hfile : file ≠ "") (hown : ∀ operation ∈ before ++ after, operation ≠ .opened (some file))
    (hheard : Operation.heard (Operation.openings before) after = heard) :
    ∃ content, (run {} (before ++ .opened (some file) :: after)).files file = some content ∧
      content = linesText (heard.map (·.2.line)) ∧
      Text.splitText '\n' content = heard.map (·.2.line) ++ [""] ∧
      (content = linesText ((heard.filter (·.1 = Operation.openings before)).map (·.2.line)) ↔
        ∀ other ∈ heard, other.1 = Operation.openings before) := by
  subst hheard
  refine ⟨_, files_run_eq hfile hown, rfl, Text.splitText_linesText ?_, linesText_filter_iff⟩
  exact List.forall_mem_map.mpr fun other _ => other.2.not_mem_line

/-- A file takes on what is logged through its own trail and through another one, and nothing after the
closing of its own trail. -/
theorem file_tells_all_heard_of_two :
    ∃ content, (run {} ([.opened (some "a.log")] ++ .opened (some "b.log") ::
        [.logged 1 (.universal 0) (.historyLost .running), .logged 0 (.universal 1) (.historyLost .paused),
          .closed 1, .logged 1 (.universal 2) (.historyLost .failed)])).files "b.log" = some content ∧
      Text.splitText '\n' content =
        [(Log.Entry.ofEvent (.universal 0) (.historyLost .running)).line,
          (Log.Entry.ofEvent (.universal 1) (.historyLost .paused)).line, ""] := by
  have hfile : "b.log" ≠ "" := by decide
  have hown : ∀ operation ∈ [Operation.opened (some "a.log")] ++
      [.logged 1 (.universal 0) (.historyLost .running), .logged 0 (.universal 1) (.historyLost .paused),
        .closed 1, .logged 1 (.universal 2) (.historyLost .failed)],
      operation ≠ .opened (some "b.log") := by simp
  obtain ⟨content, hcontent, _, hlines, _⟩ := file_tells_all_heard hfile hown rfl
  exact ⟨content, hcontent, hlines⟩

/-- A file does not always hold the events of its own trail alone: an event that is logged through the trail
of another file stands in it too. -/
theorem files_mix : ¬ ∀ (before after : List Operation) (file : String), file ≠ "" →
    (∀ operation ∈ before ++ after, operation ≠ .opened (some file)) →
    (run {} (before ++ .opened (some file) :: after)).files file = some (linesText
      (((Operation.heard (Operation.openings before) after).filter (·.1 = Operation.openings before)).map
        (·.2.line))) := by
  intro halone
  have hother := halone [.opened (some "a.log")] [.logged 0 (.universal 0) (.historyLost .running)] "b.log"
    (by decide) (by simp)
  rw [files_run_eq (by decide) (by simp)] at hother
  exact absurd (linesText_filter_iff.mp (Option.some.inj hother) _ List.mem_cons_self) (by decide)

end Trails
end Audit
end Cutover
