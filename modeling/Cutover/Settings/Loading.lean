import Cutover.Settings.Basic
import Cutover.Settings.File

/-!
# Loading settings

The settings that result from a file, the environment and the options given.  Main statement:
`Settings.load_without_file`, without a file only the environment and the options count.
-/

namespace Cutover.Settings

open Text

/-- Why there are no settings. -/
inductive LoadFault where
  | unreadable (path : String) (fault : FileFault)
  | notMapping (path : String)
  | invalid (faults : List Fault)
  /-- A key of the file is no text. -/
  | foreignKey
  deriving DecidableEq, Repr

namespace LoadFault

/-- The wording of a fault, with some wording for the faults of files. -/
def messageWith (wording : FileFault → String) : LoadFault → String
  | .unreadable path fault => "Cannot load configuration from " ++ path ++ ": " ++ wording fault
  | .notMapping path => "Configuration file " ++ path ++ " must contain a mapping"
  | .invalid faults =>
    let count := Numeral.natText faults.length
    "Invalid configuration: " ++ count ++
      (if faults.length = 1 then " validation error for " else " validation errors for ") ++ title
  | .foreignKey => "The keys of settings must be texts"

/-- The wording of a fault. -/
def message (fault : LoadFault) : String :=
  fault.messageWith FileFault.message

/-- Whether a fault is one that the program foresees: a bad setting or a file that cannot be read. -/
def isForeseen : LoadFault → Bool
  | .unreadable _ (.yaml .word) => false
  | .unreadable _ (.yaml .form) => false
  | .unreadable _ (.yaml .noDigits) => false
  | .foreignKey => false
  | _ => true

end LoadFault

/-- The settings that a file holds; an empty one holds none. -/
def Content.fields (path : String) (content : Content) : Except LoadFault Fields :=
  match content.value with
  | .null => .ok []
  | .obj members => .ok members
  | _ => .error (.notMapping path)

/-- The settings that were given by name, the result of checking them all. -/
def settle (environment : Environment) (file options : Fields) : Except LoadFault Settings :=
  match check (merge environment file options) with
  | .ok settings => .ok settings
  | .faulty faults => .error (.invalid faults)

/-- The settings that result from what a file holds, if there is one, from the environment and from the
options given. -/
def loadContent (environment : Environment) (options : Fields) :
    Option (String × Except FileFault Content) → Except LoadFault Settings
  | none => settle environment [] options
  | some (path, .error fault) => .error (.unreadable path fault)
  | some (path, .ok content) => do
    let file ← content.fields path
    if content.hasForeignKey then .error .foreignKey else settle environment file options

/-- The settings that result from a file, if one is named, from the environment and from the options
given; `find` tells what is at a path. -/
def load (find : String → Entry) (environment : Environment) (path : Option String) (options : Fields) :
    Except LoadFault Settings :=
  loadContent environment options (path.map fun path => (path, File.read path (find path)))

/-- Without a file only the environment and the options count. -/
theorem load_without_file (find : String → Entry) (environment : Environment) (options : Fields) :
    load find environment none options = settle environment [] options := rfl

end Cutover.Settings
