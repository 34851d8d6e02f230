import Cutover.Log.Level
import Cutover.Text.Letter
import Cutover.Validation.Forms

/-!
# Settings

The settings of the service, where each of them comes from, and how they are checked.  A setting is taken
from the options given, from the file if it has it, from the environment, or has its usual value, in this
order.  Main statements: `Settings.get?_merge`, merging gives each setting its effective value, and
`Settings.check_merge_congr`, settings with the same effective values are the same.
-/

namespace Cutover

open Text

/-- The settings of the service. -/
structure Settings where
  host : String
  port : Int
  logLevel : Log.Level
  logFile : Option String
  auditFile : Option String
  structuredLog : Bool
  engine : Option String
  deriving DecidableEq, Repr

namespace Settings

/-- The host of a service that is told no other. -/
def usualHost : String := "127.0.0.1"

/-- The port of a service that is told no other. -/
def usualPort : Int := 2242

/-- The title of the settings in messages. -/
def title : String := "ControlPlaneConfig"

/-! ### Where settings come from -/

/-- Variables of the environment with their values. -/
abbrev Environment := List (String × String)

/-- The settings that the environment can give. -/
def variableFields : List String :=
  ["host", "port", "log_level", "log_file", "audit_log_file", "engine"]

/-- The variable of the environment for a setting. -/
def variableName (field : String) : String :=
  "MIGRATION_CONTROL_" ++ upper field

/-- The value that the environment gives a setting; an empty one counts as none. -/
def fromEnvironment? (environment : Environment) (field : String) : Option Json :=
  if variableFields.contains field then
    match environment.lookup (variableName field) with
    | none => none
    | some value => if value = "" then none else some (.str value)
  else none

/-- The settings that the environment gives. -/
def fromEnvironment (environment : Environment) : Fields :=
  variableFields.filterMap fun field => (fromEnvironment? environment field).map (field, ·)

/-- The options that were given a value. -/
def given (options : Fields) : Fields :=
  options.filter fun option => option.2 != .null

/-- All settings that were given, each from where it counts most. -/
def merge (environment : Environment) (file options : Fields) : Fields :=
  ((fromEnvironment environment).update file).update (given options)

/-- The value that counts for a setting. -/
def effective? (environment : Environment) (file options : Fields) (field : String) : Option Json :=
  ((given options).last? field).or <| (file.last? field).or <| fromEnvironment? environment field

theorem get?_filterMap (names : List String) (value? : String → Option Json) (name : String) :
    Fields.get? (names.filterMap fun n => (value? n).map (n, ·)) name =
      if name ∈ names then value? name else none := by
  induction names with
  | nil => rfl
  | cons n names ih =>
    rw [List.filterMap_cons]
    by_cases h : n = name
    · subst h
      cases hv : value? n with
      | none => simp [ih, hv]
      | some v => simp [Fields.get?_cons]
    · have hn : ¬ name = n := fun e => h e.symm
      cases hv : value? n <;> simp [Fields.get?_cons, ih, h, hn]

theorem get?_fromEnvironment (environment : Environment) (field : String) :
    Fields.get? (fromEnvironment environment) field = fromEnvironment? environment field := by
  rw [fromEnvironment, get?_filterMap]
  by_cases h : field ∈ variableFields <;> simp [fromEnvironment?, h]

/-- Merging gives each setting its effective value. -/
theorem get?_merge (environment : Environment) (file options : Fields) (field : String) :
    Fields.get? (merge environment file options) field =
      effective? environment file options field := by
  rw [merge, Fields.get?_update, Fields.get?_update, get?_fromEnvironment, effective?]

/-! ### Checking -/

/-- Check the level of the log, which may be written in any case. -/
def checkLevel (value : Json) : Checked Log.Level :=
  (Checked.text value).bind fun name =>
    match Log.Level.ofName? (upper name) with
    | some level => .ok level
    | none => Checked.fault (.refused ("Unknown log level: " ++ name))

/-- Check the settings given by their names; the others have their usual values. -/
def check (fields : Fields) : Checked Settings :=
  let field {α : Type} (check : Json → Checked α) (usual : α) (name : String) : Checked α :=
    Checked.optionalField check usual fields (name, name)
  Checked.ok Settings.mk
    |>.and (field Checked.text usualHost "host")
    |>.and (field (Checked.integerWithin 1 65535) usualPort "port")
    |>.and (field checkLevel .info "log_level")
    |>.and (field Checked.optionalText none "log_file")
    |>.and (field Checked.optionalText none "audit_log_file")
    |>.and (field Checked.flag false "structured_logging")
    |>.and (field Checked.optionalText none "engine")

/-- Settings that are the same by their names are checked alike. -/
theorem check_congr {a b : Fields} (h : ∀ name, a.get? name = b.get? name) : check a = check b := by
  simp only [check, Checked.optionalField, Checked.given?, h]

/-- Settings with the same effective values are checked alike, whatever the values are that do not
count. -/
theorem check_merge_congr {environment environment' : Environment} {file file' options options' : Fields}
    (h : ∀ field, effective? environment file options field =
      effective? environment' file' options' field) :
    check (merge environment file options) = check (merge environment' file' options') :=
  check_congr fun field => by rw [get?_merge, get?_merge, h]

/-- The settings by their names. -/
def fields (settings : Settings) : Fields :=
  [("host", .str settings.host), ("port", .int settings.port),
    ("log_level", .str settings.logLevel.name), ("log_file", .ofText? settings.logFile),
    ("audit_log_file", .ofText? settings.auditFile),
    ("structured_logging", .bool settings.structuredLog), ("engine", .ofText? settings.engine)]

end Settings

end Cutover
