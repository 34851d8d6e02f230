import Cutover.Audit.Event
import Cutover.Log.Level
import Cutover.Json.Printer
import Cutover.Time.Reader

/-!
# Log entries

A structured entry of the log and its form as one line of data.  An event of the audit trail is written
as such an entry.
-/

namespace Cutover.Log

/-- What an entry is about. -/
inductive Category where
  | system
  | audit
  deriving DecidableEq, Repr

namespace Category

/-- The name of a category. -/
def name : Category → String
  | .system => "system"
  | .audit => "audit"

/-- The category with a name. -/
def ofName? (name : String) : Option Category :=
  [system, audit].find? (·.name = name)

@[simp] theorem ofName?_name (category : Category) : ofName? category.name = some category := by
  cases category <;> decide

end Category

/-- A structured entry of a log. -/
structure Entry where
  timestamp : Timestamp
  level : Level := .info
  category : Category := .system
  message : Json := .str ""
  command : Json := .null
  state : Json := .null
  errorCode : Json := .null
  metadata : Json := .obj []
  deriving BEq, Repr

/-- Why members make no entry. -/
inductive EntryFault where
  | unreadTimestamp
  | unknownLevel (value : Json)
  | unknownCategory (value : Json)
  | unknownMember (name : String)
  deriving BEq, Repr

/-- The wording of a fault. -/
def EntryFault.message : EntryFault → String
  | .unreadTimestamp => "Invalid timestamp"
  | .unknownLevel value => value.quotedText ++ " is not a valid LogLevel"
  | .unknownCategory value => value.quotedText ++ " is not a valid LogCategory"
  | .unknownMember name => "Unknown member " ++ name

namespace Entry

/-- The names of the members of an entry, in order. -/
def memberNames : List String :=
  ["timestamp", "level", "category", "message", "command", "state", "error_code", "metadata"]

/-- A level by its name. -/
def readLevel : Json → Except EntryFault Level
  | .str name =>
    match Level.ofName? name with
    | some level => .ok level
    | none => .error (.unknownLevel (.str name))
  | value => .error (.unknownLevel value)

/-- A category by its name. -/
def readCategory : Json → Except EntryFault Category
  | .str name =>
    match Category.ofName? name with
    | some category => .ok category
    | none => .error (.unknownCategory (.str name))
  | value => .error (.unknownCategory value)

/-- The entry with some members; the timestamp has to be among them. -/
def ofFields (fields : Fields) : Except EntryFault Entry := do
  let timestamp ←
    match fields.get? "timestamp" with
    | some (.str s) =>
      match Timestamp.readIso? s with
      | some t => .ok t
      | none => .error .unreadTimestamp
    | _ => .error .unreadTimestamp
  let level ← ((fields.get? "level").map readLevel).getD (.ok .info)
  let category ← ((fields.get? "category").map readCategory).getD (.ok .system)
  match fields.find? fun field => !memberNames.contains field.1 with
  | some (name, _) => .error (.unknownMember name)
  | none =>
    .ok
      { timestamp, level, category
        message := (fields.get? "message").getD (.str "")
        command := (fields.get? "command").getD .null
        state := (fields.get? "state").getD .null
        errorCode := (fields.get? "error_code").getD .null
        metadata := (fields.get? "metadata").getD (.obj []) }

/-- The members of an entry apart from its timestamp. -/
def contents (entry : Entry) : Fields :=
  [("level", .str entry.level.name), ("category", .str entry.category.name),
    ("message", entry.message), ("command", entry.command), ("state", entry.state),
    ("error_code", entry.errorCode), ("metadata", entry.metadata)]

/-- An entry as a value. -/
def toJson (entry : Entry) : Json :=
  .obj (("timestamp", .str entry.timestamp.isoText) :: entry.contents)

/-- An entry as one line of text. -/
def line (entry : Entry) : String :=
  entry.toJson.text

/-- The entry of an event of the audit trail. -/
def ofEvent (now : Timestamp) (event : Audit.Event) : Entry where
  timestamp := now
  category := .audit
  message := .str ("Audit event: " ++ event.kind)
  command := .ofText? event.command
  state := .ofText? event.state
  metadata := .obj [("event_type", .str event.kind), ("details", .obj event.details)]

end Entry

end Cutover.Log
