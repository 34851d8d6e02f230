import Cutover.Client.Basic
import Cutover.CommandLine.Usage
import Cutover.Namespace.Listing

/-!
# Commands on a command line

The commands that can be given on a command line, with their options, and how they are read from its
arguments.  Main statement: `Invocation.read_nil`, without arguments help is given.
-/

namespace Cutover.CommandLine

open Client (Address)

/-- The options of the command that runs the service. -/
structure ServeOptions where
  host : Option String := none
  port : Option Int := none
  config : Option String := none
  logLevel : Option String := none
  logFile : Option String := none
  auditLog : Option String := none
  structuredLogs : Bool := false
  engine : Option String := none
  deriving DecidableEq, Repr

/-- The form in which the status is shown. -/
inductive StatusForm where
  | table
  | data
  deriving DecidableEq, Repr

/-- A command. -/
inductive Action where
  | help
  | version
  | serve (options : ServeOptions)
  | start (address : Address) (included excluded : List String)
  | status (address : Address) (form : StatusForm)
  | pause (address : Address)
  | resume (address : Address) (fromFailure : Bool)
  | finalize (address : Address) (ignoreHistoryLost : Bool)
  deriving DecidableEq, Repr

/-- A command and whether it tells more than it has to. -/
structure Invocation where
  verbose : Bool := false
  action : Action
  deriving DecidableEq, Repr

namespace Invocation

/-- The option that asks for help; every command has it. -/
def helpOption : OptionDecl := ⟨"--help", none, .flag⟩

/-- The options in front of a command. -/
def commonOptions : List OptionDecl :=
  [⟨"--version", none, .flag⟩, ⟨"--verbose", some 'v', .flag⟩, helpOption]

/-- The options that say where the service is. -/
def addressOptions : List OptionDecl :=
  [⟨"--host", none, .text⟩, ⟨"--port", some 'p', .integer⟩]

/-- The options of the command that runs the service. -/
def serveOptions : List OptionDecl :=
  [⟨"--host", none, .text⟩, ⟨"--port", some 'p', .integer⟩, ⟨"--config", some 'c', .existingPath⟩,
    ⟨"--log-level", none, .choice ["DEBUG", "INFO", "WARNING", "ERROR", "CRITICAL"] true⟩,
    ⟨"--log-file", none, .text⟩, ⟨"--audit-log", none, .text⟩, ⟨"--structured-logs", none, .flag⟩,
    ⟨"--engine", none, .text⟩]

/-- The commands with the options that each of them has beside the one for help. -/
def commands : List (String × List OptionDecl) :=
  [("serve", serveOptions),
    ("start", addressOptions ++
      [⟨"--include-namespaces", none, .text⟩, ⟨"--exclude-namespaces", none, .text⟩]),
    ("status", addressOptions ++ [⟨"--format", some 'f', .choice ["table", "json"] false⟩]),
    ("pause", addressOptions),
    ("resume", addressOptions ++ [⟨"--from-failure", none, .flag⟩]),
    ("finalize", addressOptions ++ [⟨"--ignore-history-lost", none, .flag⟩])]

/-- The options of a command as they were given: all of them, and the values by their names. -/
structure Parsed where
  given : List Given
  values : List (String × Value)

namespace Parsed

/-- Whether an option was given. -/
def has (parsed : Parsed) (name : String) : Bool :=
  parsed.given.any (·.decl.long = name)

/-- The value of an option that is a text. -/
def text? (parsed : Parsed) (name : String) : Option String :=
  match parsed.values.find? (·.1 = name) with
  | some (_, .text s) => some s
  | _ => none

/-- The value of an option that is an integer. -/
def integer? (parsed : Parsed) (name : String) : Option Int :=
  match parsed.values.find? (·.1 = name) with
  | some (_, .integer n) => some n
  | _ => none

/-- All values of an option that may be given several times. -/
def all (parsed : Parsed) (name : String) : List String :=
  parsed.given.filterMap fun given => if given.decl.long = name then given.value else none

/-- Where the service is. -/
def address (parsed : Parsed) : Address :=
  { host := (parsed.text? "--host").getD (Address.host {})
    port := (parsed.integer? "--port").getD (Address.port {}) }

/-- The namespaces named by an option. -/
def namespaces (parsed : Parsed) (name : String) : List String :=
  Namespace.flatItems (parsed.all name)

end Parsed

/-- The command with a name and some options. -/
def actionOf (name : String) (parsed : Parsed) : Action :=
  match name with
  | "serve" =>
    .serve
      { host := parsed.text? "--host"
        port := parsed.integer? "--port"
        config := parsed.text? "--config"
        logLevel := parsed.text? "--log-level"
        logFile := parsed.text? "--log-file"
        auditLog := parsed.text? "--audit-log"
        structuredLogs := parsed.has "--structured-logs"
        engine := parsed.text? "--engine" }
  | "start" =>
    .start parsed.address (parsed.namespaces "--include-namespaces")
      (parsed.namespaces "--exclude-namespaces")
  | "status" =>
    .status parsed.address (if parsed.text? "--format" = some "json" then .data else .table)
  | "pause" => .pause parsed.address
  | "resume" => .resume parsed.address (parsed.has "--from-failure")
  | "finalize" => .finalize parsed.address (parsed.has "--ignore-history-lost")
  | _ => .help

/-- Read the arguments of a command.  Help is given before any value is checked. -/
def readAction (existing : String → Bool) (name : String) (decls : List OptionDecl)
    (args : List String) : Except UsageFault Action := do
  let (given, left) ← readArguments (decls ++ [helpOption]) true args
  if given.any (·.decl.long = helpOption.long) then .ok .help
  else
    let values ← checkValues existing given
    if left.isEmpty then .ok (actionOf name ⟨given, values⟩) else .error (.extraArguments left)

/-- Read the name of a command and its arguments.  A name that looks like an option, which can come only
from behind two hyphens, is read as one before it is refused. -/
def readCommand (existing : String → Bool) (verbose version : Bool) (name : String)
    (args : List String) : Except UsageFault Invocation :=
  match commands.find? (·.1 = name) with
  | some (_, decls) =>
    if version then .ok ⟨verbose, .version⟩
    else (readAction existing name decls args).map fun action => ⟨verbose, action⟩
  | none => do
    let (given, _) ← readArguments commonOptions false (name :: args)
    if given.any (·.decl.long = helpOption.long) then .ok ⟨verbose, .help⟩
    else .error (.unknownCommand name)

/-- Read the arguments of a command line; `existing` tells which paths exist. -/
def read (existing : String → Bool) (args : List String) : Except UsageFault Invocation := do
  let (given, left) ← readArguments commonOptions false args
  let has (name : String) : Bool := given.any (·.decl.long = name)
  if has "--help" then .ok ⟨false, .help⟩
  else
    match left with
    | [] => .ok ⟨has "--verbose", if has "--version" then .version else .help⟩
    | name :: args => readCommand existing (has "--verbose") (has "--version") name args

/-- The request that a command makes of the service, and where it is sent. -/
def request? (invocation : Invocation) : Option (Address × Client.Call) :=
  match invocation.action with
  | .help => none
  | .version => none
  | .serve _ => none
  | .start address included excluded => some (address, .start (.ofTexts included) (.ofTexts excluded))
  | .status address _ => some (address, .status)
  | .pause address => some (address, .pause)
  | .resume address fromFailure => some (address, .resume (.bool fromFailure))
  | .finalize address ignoreHistoryLost => some (address, .finalize (.bool ignoreHistoryLost))

/-- Without arguments help is given. -/
@[simp] theorem read_nil (existing : String → Bool) : read existing [] = .ok ⟨false, .help⟩ := rfl

end Invocation

end Cutover.CommandLine
