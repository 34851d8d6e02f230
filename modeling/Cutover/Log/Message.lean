import Cutover.Log.Entry
import Cutover.Log.Template

/-!
# Messages

A message as it is handed to the log, with everything known of the place it comes from, and the structured
entry made of it.  Attributes of a message that are not its own become metadata of the entry.
-/

namespace Cutover.Log

open Text

/-- A message handed to the log. -/
structure Message where
  logger : Json
  /-- The level by its name. -/
  level : Json
  template : Json
  arguments : Option Arguments := none
  /-- The time in seconds since the start of 1970. -/
  created : Json
  sourceModule : Json
  function : Json := .null
  line : Json
  /-- What the failure that came with the message says. -/
  exception : Option String := none
  /-- Whether a failure came with it that cannot be shown. -/
  exceptionBroken : Bool := false
  entry : Option Entry := none
  /-- Attributes that the message has beside its own. -/
  extras : Fields := []
  deriving BEq, Repr

/-- Why a message makes no entry. -/
inductive MessageFault where
  | timeNotNumber
  | timeUnreadable (message : String)
  | unknownLevel (value : Json)
  | template (fault : TemplateFault)
  | exceptionBroken
  deriving BEq, Repr

namespace Message

/-- The names of the attributes that a message has of its own, or that are never written. -/
def ownNames : List String :=
  ["name", "msg", "args", "levelname", "levelno", "pathname", "filename", "module", "lineno",
    "funcName", "created", "msecs", "relativeCreated", "thread", "threadName", "processName",
    "process", "taskName", "message", "exc_info", "exc_text", "stack_info", "log_entry"]

/-- The name of a level by its number. -/
def levelName (number : Int) : String :=
  match Level.all.find? fun level => (level.weight : Int) = number with
  | some level => level.name
  | none => if number = 0 then "NOTSET" else "Level " ++ Numeral.intText number

/-- The name of a source file without its directories and without its last extension; points in front
belong to the name. -/
def moduleOfPath (path : String) : String :=
  let file := ((split '/' path.toList).getLast?).getD []
  let (front, rest) := file.span (· == '.')
  let pieces := split '.' rest
  String.ofList (front ++ (if pieces.length ≤ 1 then rest else join ['.'] pieces.dropLast))

/-- Give an attribute a value, one of the message's own or another one. -/
def withAttribute (message : Message) (given : String × Json) : Message :=
  let (name, value) := given
  match name with
  | "name" => { message with logger := value }
  | "levelname" => { message with level := value }
  | "msg" => { message with template := value }
  | "args" =>
    { message with arguments := if value.isTruthy then some (.single value) else none }
  | "created" => { message with created := value }
  | "module" => { message with sourceModule := value }
  | "funcName" => { message with function := value }
  | "lineno" => { message with line := value }
  | "exc_info" => { message with exception := none, exceptionBroken := value.isTruthy }
  | "log_entry" => { message with entry := none }
  | _ =>
    if ownNames.contains name then message
    else { message with extras := message.extras.set name value }

/-- The microseconds of a count of seconds, a fraction rounded to the nearest one. -/
def timeOf : Json → Except MessageFault Timestamp
  | .int n => inRange (n * 1000000)
  | .bool b => inRange (if b then 1000000 else 0)
  | .float .nan => .error (.timeUnreadable "cannot convert float NaN to integer")
  | .float (.infinite _) => .error (.timeUnreadable "cannot convert float infinity to integer")
  | .float x =>
    let (whole, rest) := x.split
    inRange (whole * 1000000 + (rest.mul (.ofInt 1000000)).roundToInt)
  | _ => .error .timeNotNumber
where
  /-- The reading a number of microseconds after the start of 1970, in a year of four digits. -/
  inRange (micros : Int) : Except MessageFault Timestamp :=
    let t : Timestamp := ⟨micros, none⟩
    let year := t.date.year
    if 1 ≤ year && year ≤ 9999 then .ok t
    else .error (.timeUnreadable ("year " ++ Numeral.intText year ++ " is out of range"))

/-- The text of a message: its template, filled if it has arguments. -/
def text (message : Message) : Except MessageFault String :=
  let template := message.template.displayText
  match message.arguments with
  | none => .ok template
  | some arguments =>
    match Template.fill template arguments with
    | .ok s => .ok s
    | .error fault => .error (.template fault)

/-- The entry made of a message.  A message that carries an entry is that entry. -/
def toEntry (message : Message) : Except MessageFault Entry :=
  match message.entry with
  | some entry => .ok entry
  | none => do
    let timestamp ← timeOf message.created
    let level ←
      match Entry.readLevel message.level with
      | .ok level => .ok level
      | .error _ => .error (.unknownLevel message.level)
    let s ← message.text
    let own : Fields :=
      [("logger", message.logger), ("module", message.sourceModule),
        ("function", message.function), ("line", message.line)]
    let metadata := own.update message.extras
    if message.exceptionBroken then .error .exceptionBroken
    else
      let metadata := match message.exception with
        | some shown => metadata.set "exception" (.str shown)
        | none => metadata
      .ok { timestamp, level, message := .str s, metadata := .obj metadata }

/-- A message as one line of structured text. -/
def structuredLine (message : Message) : Except MessageFault String :=
  message.toEntry.map (·.line)

end Message

end Cutover.Log
