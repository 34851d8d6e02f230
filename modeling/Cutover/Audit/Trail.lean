import Cutover.Log.Entry
import Cutover.Text.Split

/-!
# Audit trails of a process

An audit trail that is opened with a file puts a writer to the log that all trails of a process share, and
takes it away when it is closed.  An event that is logged through any trail goes to all writers that are there
at the time.  Main statement: `Trails.run_append`, what is done first is done first.
-/

namespace Cutover.Audit

/-- What is done with an audit trail.  A trail goes by its place in the order in which they were opened; a
recorded change of state is logged as the event that is made of it. -/
inductive Operation where
  | opened (file : Option String)
  | logged (trail : Nat) (now : Timestamp) (event : Event)
  | closed (trail : Nat)
  deriving BEq, Repr

/-- A writer of the shared log: the trail that put it there, and its file. -/
structure Writer where
  trail : Nat
  file : String
  deriving DecidableEq, Repr

/-- The audit trails of a process: how many were opened, the writers in their order, and what the files
hold. -/
structure Trails where
  count : Nat := 0
  writers : List Writer := []
  files : String → Option String := fun _ => none

namespace Trails

variable {trails : Trails}

/-- Add to the end of a file; one that is not there is made. -/
def append (trails : Trails) (text : String) (file : String) : Trails :=
  { trails with
    files := fun other =>
      if other = file then some ((trails.files file).getD "" ++ text) else trails.files other }

/-- Open a trail.  No file, or one with an empty name, makes a trail without a writer. -/
def opened (trails : Trails) (file : Option String) : Trails :=
  match file.filter (· ≠ "") with
  | none => { trails with count := trails.count + 1 }
  | some file =>
    { trails.append "" file with
      count := trails.count + 1
      writers := trails.writers ++ [⟨trails.count, file⟩] }

/-- Log an event: its line goes to every writer, whichever trail it was logged through. -/
def logged (trails : Trails) (now : Timestamp) (event : Event) : Trails :=
  (trails.writers.map (·.file)).foldl (append · (Text.linesText [(Log.Entry.ofEvent now event).line])) trails

/-- Close a trail: its writer is taken away. -/
def closed (trails : Trails) (trail : Nat) : Trails :=
  { trails with writers := trails.writers.filter (·.trail ≠ trail) }

/-- Do something with a trail. -/
def apply (trails : Trails) : Operation → Trails
  | .opened file => trails.opened file
  | .logged _ now event => trails.logged now event
  | .closed trail => trails.closed trail

/-- Do one thing after the other. -/
def run (trails : Trails) (operations : List Operation) : Trails :=
  operations.foldl apply trails

@[simp] theorem append_count (text file : String) : (trails.append text file).count = trails.count := rfl

@[simp] theorem append_writers (text file : String) :
    (trails.append text file).writers = trails.writers := rfl

@[simp] theorem apply_opened (file : Option String) : trails.apply (.opened file) = trails.opened file := rfl

@[simp] theorem apply_logged (trail : Nat) (now : Timestamp) (event : Event) :
    trails.apply (.logged trail now event) = trails.logged now event := rfl

@[simp] theorem apply_closed (trail : Nat) : trails.apply (.closed trail) = trails.closed trail := rfl

@[simp] theorem closed_files (trail : Nat) : (trails.closed trail).files = trails.files := rfl

@[simp] theorem run_nil : trails.run [] = trails := rfl

@[simp] theorem run_cons (operation : Operation) (operations : List Operation) :
    trails.run (operation :: operations) = (trails.apply operation).run operations := rfl

/-- What is done first is done first. -/
theorem run_append (before after : List Operation) :
    trails.run (before ++ after) = (trails.run before).run after :=
  List.foldl_append

end Trails

end Cutover.Audit
