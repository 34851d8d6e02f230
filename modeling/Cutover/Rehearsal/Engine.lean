import Cutover.ControlPlane.Basic

/-!
# Engines of a rehearsal

An apply engine that only writes a line for each signal, and one that follows a script: during a signal it
makes reports, fails, or waits at a gate until it is let through.
-/

namespace Cutover

/-- What a scripted engine does during a signal. -/
inductive Action where
  | reportFailure (reason : Json)
  | reportHistoryLost
  /-- The signal fails with a message; what comes after is not done. -/
  | fail (message : String)
  /-- The signal waits until it is let through. -/
  | gate
  deriving BEq, Repr

/-- An apply engine. -/
inductive Engine where
  /-- An engine that writes a line for each signal. -/
  | logging
  /-- An engine that follows a list of actions for each signal, named by the signal. -/
  | scripted (scripts : List (String × List Action))
  deriving BEq, Repr

namespace Engine

/-- The name of the kind of an engine. -/
def className : Engine → String
  | .logging => "LoggingApplyEngine"
  | .scripted _ => "ScriptedEngine"

/-- The actions of an engine during a signal. -/
def script (engine : Engine) (signal : Signal) : List Action :=
  match engine with
  | .logging => []
  | .scripted scripts => ((scripts.find? (·.1 = signal.name)).map (·.2)).getD []

/-- The engine with other actions for some signals. -/
def rescript (engine : Engine) (changes : List (String × List Action)) : Engine :=
  match engine with
  | .logging => .logging
  | .scripted scripts => .scripted (changes ++ scripts)

/-- The line that a logging engine writes for a signal. -/
def line : Signal → Log.Line
  | .start scope =>
    let texts (patterns : List Pattern) : Json := .ofTexts (patterns.map (·.text))
    let included :=
      if scope.includesAll then "all" else (texts scope.included).displayText
    ⟨.info, "Apply engine start: include=" ++ included ++
      " exclude=" ++ (texts scope.excluded).displayText⟩
  | .pause => ⟨.info, "Apply engine pause"⟩
  | .resume fromFailure =>
    ⟨.info, "Apply engine resume (from_failure=" ++ (Json.bool fromFailure).displayText ++ ")"⟩
  | .finalize ignoreHistoryLost =>
    ⟨.info, "Apply engine finalize (ignore_history_lost=" ++
      (Json.bool ignoreHistoryLost).displayText ++ ")"⟩

/-- The failure of a report made by an engine that no controller has taken on. -/
def notAttached (engine : Engine) : Failure :=
  ⟨.engineNotAttached (engine.className ++ " is not attached to a migration controller"), "", []⟩

end Engine

end Cutover
