/-!
# Log levels

The levels of log lines, their names and their weights.
-/

namespace Cutover.Log

/-- The level of a log line. -/
inductive Level where
  | debug
  | info
  | warning
  | error
  | critical
  deriving DecidableEq, Repr, Inhabited

namespace Level

/-- All levels, from the lightest to the heaviest. -/
def all : List Level := [.debug, .info, .warning, .error, .critical]

/-- The name of a level. -/
def name : Level → String
  | .debug => "DEBUG"
  | .info => "INFO"
  | .warning => "WARNING"
  | .error => "ERROR"
  | .critical => "CRITICAL"

/-- The weight of a level; a log lets through what weighs at least as much as its own level. -/
def weight : Level → Nat
  | .debug => 10
  | .info => 20
  | .warning => 30
  | .error => 40
  | .critical => 50

/-- The level with a name. -/
def ofName? (name : String) : Option Level :=
  all.find? (·.name = name)

/-- A name leads back to its level. -/
@[simp] theorem ofName?_name (level : Level) : ofName? level.name = some level := by
  cases level <;> decide

/-- A level is found by its own name only. -/
theorem name_of_ofName? {name : String} {level : Level} (h : ofName? name = some level) :
    level.name = name := by
  simpa using List.find?_some h

theorem name_mem (level : Level) : level.name ∈ ["DEBUG", "INFO", "WARNING", "ERROR", "CRITICAL"] := by
  cases level <;> decide

end Level

/-- A line of a log. -/
structure Line where
  level : Level
  text : String
  deriving DecidableEq, Repr

end Cutover.Log
