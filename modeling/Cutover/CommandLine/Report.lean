import Cutover.CommandLine.Invocation
import Cutover.CommandLine.Screen
import Cutover.EngineName.Basic
import Cutover.Json.Printer
import Cutover.Service.Basic
import Cutover.Settings.Loading

/-!
# What a command shows

The lines that a command shows before its request is sent and after what came of it is known, and the exit
status that it ends with.

Main statement: `Ending.exit_of_escape`, a command that ends in something unforeseen fails.
-/

namespace Cutover.CommandLine

open Client (Address Trouble Response)

/-- Something unforeseen that ends a command. -/
inductive Escape where
  | trouble (trouble : Trouble)
  | markup (fault : Markup.Fault)
  | settings (fault : Settings.LoadFault)
  | engineName (fault : EngineName.Fault)
  deriving BEq, Repr

/-- How a command ends: what it has shown, and its exit status or what has ended it. -/
structure Ending where
  output : String
  result : Except Escape Nat

namespace Ending

/-- The exit status of a command. -/
def exit (ending : Ending) : Nat :=
  match ending.result with
  | .ok status => status
  | .error _ => 1

/-- What has ended a command before its end. -/
def escape? (ending : Ending) : Option Escape :=
  match ending.result with
  | .ok _ => none
  | .error escape => some escape

/-- A command that ends in something unforeseen fails. -/
theorem exit_of_escape {ending : Ending} (h : ending.escape?.isSome = true) : ending.exit = 1 := by
  unfold escape? at h
  unfold exit
  split at h <;> simp_all

end Ending

/-- Show marked up lines one after the other, and end with an exit status. -/
def showLines (status : Nat) : List String → Ending
  | [] => ⟨"", .ok status⟩
  | line :: lines =>
    match shownText line with
    | .error fault => ⟨"", .error (.markup fault)⟩
    | .ok text =>
      let ending := showLines status lines
      { ending with output := text ++ ending.output }

/-- A text in a style. -/
def styled (style s : String) : String :=
  "[" ++ style ++ "]" ++ s ++ "[/" ++ style ++ "]"

/-- Names in a row, or a word where there is nothing to be seen of them. -/
def namesOr (word : String) (names : List String) : String :=
  let row := Text.joinText ", " names
  if row = "" then word else row

namespace Invocation

/-- The name of a command. -/
def name (invocation : Invocation) : String :=
  match invocation.action with
  | .help => "help"
  | .version => "version"
  | .serve _ => "serve"
  | .start .. => "start"
  | .status .. => "status"
  | .pause _ => "pause"
  | .resume .. => "resume"
  | .finalize .. => "finalize"

/-- The line that tells where the service is. -/
def addressLine (address : Address) : String :=
  styled "dim" ("Server: " ++ address.host ++ ":" ++ Text.Numeral.intText address.port)

/-- The lines that tell what is started. -/
def scopeLines (included excluded : List String) : List String :=
  [styled "dim" ("Include: " ++ Markup.escape (namesOr "all" included)),
    styled "dim" ("Exclude: " ++ Markup.escape (namesOr "none" excluded))]

/-- The lines that are shown before a request is sent. -/
def openingLines (invocation : Invocation) : List String :=
  if !invocation.verbose then []
  else
    match invocation.action with
    | .start address included excluded => scopeLines included excluded ++ [addressLine address]
    | .pause address => [addressLine address]
    | .resume address _ => [addressLine address]
    | .finalize address _ => [addressLine address]
    | _ => []

/-- What is shown before a request is sent. -/
def opening (invocation : Invocation) : Ending :=
  showLines 0 invocation.openingLines

end Invocation

/-- The text for something that the service tells beside its acceptance; an empty one is not shown. -/
def noteLines (intro : String) : Option String → List String
  | none => []
  | some "" => []
  | some s => [styled "yellow" ("⚠️  " ++ intro ++ ": " ++ Markup.escape s)]

/-- The code of a rejection in brackets. -/
def codeText : Option String → String
  | none => ""
  | some "" => ""
  | some code => " (" ++ code ++ ")"

/-- What is shown of the response to a command. -/
def commandEnding (name : String) (response : CommandResponse) : Ending :=
  if response.ok then
    showLines 0 <|
      styled "green" ("✓ " ++ name ++ " accepted") ::
        noteLines "Transition committed but the apply engine was not signalled"
          response.signalError ++
        noteLines "Command completed its signal but was overtaken by an engine report"
          response.superseded
  else
    showLines 1
      [styled "red" ("✗ " ++ name ++ " rejected" ++ codeText response.errorCode ++ ": " ++
        Markup.escape (response.error.getD ""))]

/-- The rows of the status table as marked up text. -/
def statusRows (response : StatusResponse) : List (String × String) :=
  [("State", response.state.name),
    ("Include", namesOr "all" response.included),
    ("Exclude", namesOr "none" response.excluded),
    ("History lost", if response.historyLost then styled "red" "yes" else "no")] ++
    (match response.error with
      | none => []
      | some "" => []
      | some s => [("Error", styled "red" (Markup.escape s))]) ++
    (match response.updatedAt with
      | none => []
      | some t => [("Updated", t.isoText)])

/-- The status as a table. -/
def statusTable (response : StatusResponse) : Except Markup.Fault String := do
  let rows ← (statusRows response).mapM fun row => do
    let value ← Markup.show? row.2
    .ok (row.1.toList, value)
  .ok (tableText "Migration Status" rows)

/-- What is shown of the status. -/
def statusEnding (form : StatusForm) (response : StatusResponse) : Ending :=
  match form with
  | .data => ⟨response.wire.indentedText ++ "\n", .ok 0⟩
  | .table =>
    match statusTable response with
    | .ok text => ⟨text, .ok 0⟩
    | .error fault => ⟨"", .error (.markup fault)⟩

/-- What is shown of a call that gave no response. -/
def troubleEnding : Trouble → Ending
  | .connection failure => showLines 1 [styled "red" ("Error: " ++ Markup.escape failure.message)]
  | trouble => ⟨"", .error (.trouble trouble)⟩

namespace Invocation

/-- What is shown once it is known what came of the request. -/
def closing (invocation : Invocation) : Except Trouble Response → Ending
  | .error trouble => troubleEnding trouble
  | .ok (.command response) => commandEnding invocation.name response
  | .ok (.status response) =>
    match invocation.action with
    | .status _ form => statusEnding form response
    | _ => statusEnding .table response

/-- The line that tells the version. -/
def versionLine : String := "Migration Control version " ++ Service.version

/-- Everything that a command with a request shows; the request and its payload are delivered by
`deliver`, which is asked only if nothing has ended the command before. -/
def conduct {σ : Type} (invocation : Invocation)
    (deliver : σ → Address → Client.Call → Json → σ × Client.Delivery) (s : σ) : σ × Ending :=
  let opening := invocation.opening
  match opening.result, invocation.request? with
  | .error _, _ => (s, opening)
  | .ok _, none => (s, opening)
  | .ok _, some (address, call) =>
    match call.sent with
    | .error trouble => (s, { troubleEnding trouble with output := opening.output })
    | .ok payload =>
      let (s, delivery) := deliver s address call payload
      let ending := invocation.closing (call.receive address delivery)
      (s, { ending with output := opening.output ++ ending.output })

end Invocation

end Cutover.CommandLine
