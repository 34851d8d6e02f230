import Cutover.CommandLine.Report
import Cutover.Log.Setup

/-!
# Running the service

What the command that runs the service does before the service takes over: it loads the settings, sets up
the log, and finds the engine.  Main statements: `Serving.exit_of_launch`, the command succeeds wherever
the service was started, and `trailFile?_of_launch`, the audit trail was opened then.
-/

namespace Cutover.CommandLine

/-- What the service runs with. -/
structure Launch where
  settings : Settings
  log : Log.Setup
  engine : Engine

/-- How the command that runs the service ends, and what the service was started with. -/
structure Serving where
  ending : Ending
  launch : Option Launch := none

/-- The settings that the options of the command give. -/
def ServeOptions.fields (options : ServeOptions) : Fields :=
  [("host", .ofText? options.host),
    ("port", match options.port with
      | some n => .int n
      | none => .null),
    ("log_level", .ofText? options.logLevel), ("log_file", .ofText? options.logFile),
    ("audit_log_file", .ofText? options.auditLog),
    ("structured_logging", if options.structuredLogs then .bool true else .null),
    ("engine", .ofText? options.engine)]

/-- The line that tells that the settings are not usable. -/
def refusal (message : String) : Ending :=
  showLines 1 [styled "red" ("Configuration error: " ++ Markup.escape message)]

/-- The line that tells where the service is about to run. -/
def startLine (settings : Settings) : String :=
  styled "green" ("Starting Migration Control server on " ++ settings.host ++ ":" ++
    Text.Numeral.intText settings.port)

/-- Start the service with an engine. -/
def start (settings : Settings) (engine : Engine) : Serving :=
  let ending := showLines 0 [startLine settings]
  match ending.result with
  | .error _ => { ending }
  | .ok _ =>
    { ending
      launch := some
        { settings, engine
          log := .ofWeight settings.logLevel.weight settings.logFile settings.structuredLog } }

/-- The command that runs the service; `find` tells what is at a path. -/
def serve (find : String → Settings.Entry) (environment : Settings.Environment) (options : ServeOptions) :
    Serving :=
  match Settings.load find environment options.config options.fields with
  | .error fault =>
    { ending := if fault.isForeseen then refusal fault.message else ⟨"", .error (.settings fault)⟩ }
  | .ok settings =>
    match EngineName.load settings.engine with
    | .ok engine => start settings engine
    | .error fault =>
      match fault.failure? (settings.engine.getD "") with
      | some failure => { ending := refusal failure.message }
      | none => { ending := ⟨"", .error (.engineName fault)⟩ }

/-- The file of the audit trail that the command opens for the service, if it comes to that. -/
def trailFile? (find : String → Settings.Entry) (environment : Settings.Environment)
    (options : ServeOptions) : Option (Option String) :=
  match Settings.load find environment options.config options.fields with
  | .error _ => none
  | .ok settings =>
    match EngineName.load settings.engine with
    | .error _ => none
    | .ok _ => some settings.auditFile

theorem showLines_result {lines : List String} {status n : Nat}
    (h : (showLines status lines).result = .ok n) : n = status := by
  induction lines with
  | nil => simpa [showLines] using h.symm
  | cons line lines ih =>
    unfold showLines at h
    split at h
    · contradiction
    · exact ih h

theorem start_launch {settings : Settings} {engine : Engine} {launch : Launch}
    (h : (start settings engine).launch = some launch) : launch.settings = settings := by
  unfold start at h
  dsimp only at h
  split at h
  · contradiction
  · cases h
    rfl

theorem start_exit {settings : Settings} {engine : Engine} {launch : Launch}
    (h : (start settings engine).launch = some launch) : (start settings engine).ending.exit = 0 := by
  unfold start at h ⊢
  cases hr : (showLines 0 [startLine settings]).result with
  | error escape => simp [hr] at h
  | ok n => simp [hr, Ending.exit, showLines_result hr]

/-- The command succeeds wherever the service was started. -/
theorem Serving.exit_of_launch {find : String → Settings.Entry} {environment : Settings.Environment}
    {options : ServeOptions} {launch : Launch}
    (h : (serve find environment options).launch = some launch) :
    (serve find environment options).ending.exit = 0 := by
  unfold serve at h ⊢
  split at h
  · contradiction
  · split at h
    · exact start_exit h
    · split at h <;> contradiction

/-- Wherever the service was started, the audit trail was opened with the file that the settings name. -/
theorem trailFile?_of_launch {find : String → Settings.Entry} {environment : Settings.Environment}
    {options : ServeOptions} {launch : Launch}
    (h : (serve find environment options).launch = some launch) :
    trailFile? find environment options = some launch.settings.auditFile := by
  unfold serve at h
  unfold trailFile?
  cases hload : Settings.load find environment options.config options.fields with
  | error fault => rw [hload] at h; contradiction
  | ok settings =>
    rw [hload] at h
    dsimp only at h ⊢
    cases hengine : EngineName.load settings.engine with
    | error fault =>
      rw [hengine] at h
      dsimp only at h
      split at h <;> contradiction
    | ok engine =>
      rw [hengine] at h
      rw [start_launch h]

end Cutover.CommandLine
