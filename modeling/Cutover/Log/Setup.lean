import Cutover.Log.Message
import Cutover.Text.Letter

/-!
# Set up of the log

Where the log is written and from which level on.  It always goes to the terminal; if a file is named it
goes there as well.  Main statement: `Setup.admits_mono`, a log that lets a line through lets every heavier
line through.
-/

namespace Cutover.Log

open Text

/-- The name of the log of the whole program; its parts have this name and a point before their own. -/
def rootName : String := "migration_control"

/-- The name of the log of a part. -/
def childName (part : String) : String :=
  rootName ++ "." ++ part

/-- Where lines go to. -/
inductive Sink where
  | terminal
  /-- A file that is replaced by a new one when it is full; some old ones are kept. -/
  | file (name : String)
  deriving DecidableEq, Repr

/-- The size in bytes at which a log file is full. -/
def fullFileSize : Nat := 52428800

/-- The number of full log files that are kept. -/
def keptFiles : Nat := 5

/-- Where the log is written, from which level on and in which form. -/
structure Setup where
  weight : Nat
  sinks : List Sink
  structured : Bool
  deriving DecidableEq, Repr

namespace Setup

/-- The weights of the names of levels, among them those that are no levels of lines. -/
def weightOf? (name : String) : Option Nat :=
  if name = "WARN" then some Level.warning.weight
  else if name = "FATAL" then some Level.critical.weight
  else if name = "NOTSET" then some 0
  else (Level.ofName? name).map (·.weight)

/-- The set up for a weight and a file, if one is named. -/
def ofWeight (weight : Nat) (file : Option String) (structured : Bool) : Setup :=
  { weight, structured
    sinks :=
      .terminal :: match file with
        | none => []
        | some name => if name = "" then [] else [.file name] }

/-- The set up for a level, which may be written in any case, and a file, if one is named. -/
def make? (level : String) (file : Option String) (structured : Bool) : Option Setup :=
  (weightOf? (upper level)).map fun weight => ofWeight weight file structured

/-- The weight from which on lines are let through; a log without a level of its own lets warnings
through. -/
def threshold (setup : Setup) : Nat :=
  if setup.weight = 0 then Level.warning.weight else setup.weight

/-- Whether a line of a level is let through. -/
def admits (setup : Setup) (level : Level) : Bool :=
  setup.threshold ≤ level.weight

/-- Whether lines go to a file. -/
def hasFile (setup : Setup) : Bool :=
  setup.sinks.any fun
    | .file _ => true
    | .terminal => false

/-- A log that lets a line through lets every heavier line through. -/
theorem admits_mono {setup : Setup} {level heavier : Level} (h : level.weight ≤ heavier.weight)
    (admitted : setup.admits level = true) : setup.admits heavier = true := by
  simp only [admits, decide_eq_true_eq] at *
  exact Nat.le_trans admitted h

end Setup

namespace Message

/-- The attributes that a caller may not give a message. -/
def reservedNames : List String :=
  "asctime" :: ownNames.filter (· ≠ "log_entry")

/-- A message of a part of the program, with attributes given by the caller, unless one of them is
reserved. -/
def make? (logger : String) (level : Level) (text : Json) (attributes : Fields) : Option Message :=
  if attributes.any fun given => reservedNames.contains given.1 then none
  else
    some <| attributes.foldl withAttribute
      { logger := .str logger, level := .str level.name, template := text
        created := .int 0, sourceModule := .null, line := .null }

/-- A message as a line of plain text, behind the time. -/
def plainLine (message : Message) : String :=
  message.logger.displayText ++ " - " ++ message.level.displayText ++ " - " ++
    message.template.displayText

end Message

end Cutover.Log
