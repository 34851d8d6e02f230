import Cutover.Text.Digit
import Cutover.Text.Letter
import Cutover.Text.Quoted

/-!
# Options on a command line

How the arguments of a command are told apart: options by their long and short names, their values, and
the arguments that are no options.  A short option may carry its value, and short flags may share an
argument.  Values are checked once all arguments have been told apart, in the order in which their options
came first; of several values of an option the last one counts.

Main statements: `readArguments_plain`, arguments without a hyphen in front are left as they are, and
`readArguments_end`, so is everything behind two hyphens.
-/

namespace Cutover.CommandLine

open Text

/-- What the value of an option has to be. -/
inductive ValueKind where
  /-- The option is a flag and has no value. -/
  | flag
  | integer
  /-- One of a few words, perhaps in any case. -/
  | choice (words : List String) (anyCase : Bool)
  | text
  /-- The path of something that exists. -/
  | existingPath
  deriving DecidableEq, Repr

/-- An option that a command knows. -/
structure OptionDecl where
  long : String
  short : Option Char := none
  kind : ValueKind
  deriving DecidableEq, Repr

namespace OptionDecl

/-- Whether an option has a value. -/
def takesValue (decl : OptionDecl) : Bool :=
  decl.kind ≠ .flag

/-- The short name of an option. -/
def shortName (c : Char) : String :=
  String.ofList ['-', c]

/-- The names of an option. -/
def names (decl : OptionDecl) : List String :=
  decl.long :: (decl.short.map shortName).toList

end OptionDecl

/-- An option as it was given. -/
structure Given where
  decl : OptionDecl
  value : Option String
  deriving DecidableEq, Repr

/-- What is wrong with a command line. -/
inductive UsageFault where
  | unknownOption (name : String)
  | unknownCommand (name : String)
  | extraArguments (arguments : List String)
  | missingValue (name : String)
  | unwantedValue (name : String)
  | badValue (names : List String) (reason : String)
  deriving DecidableEq, Repr

/-- The wording of a fault. -/
def UsageFault.message : UsageFault → String
  | .unknownOption name => "No such option " ++ Quoted.quoted name ++ "."
  | .unknownCommand name => "No such command " ++ Quoted.quoted name ++ "."
  | .extraArguments arguments =>
    (if arguments.length = 1 then "Got unexpected extra argument ("
      else "Got unexpected extra arguments (") ++ joinText " " arguments ++ ")"
  | .missingValue name => "Option " ++ Quoted.quoted name ++ " requires an argument."
  | .unwantedValue name => "Option " ++ Quoted.quoted name ++ " does not take a value."
  | .badValue names reason =>
    "Invalid value for " ++ joinText " / " (names.map fun name => "'" ++ name ++ "'") ++ ": " ++ reason

/-- What an argument with a hyphen in front gives. -/
structure Reading where
  given : List Given
  /-- An option whose value is the next argument, and the name it was given by. -/
  awaiting : Option (OptionDecl × String) := none
  deriving DecidableEq, Repr

/-- The options behind a single hyphen: flags, and perhaps an option with a value behind them. -/
def readShorts (decls : List OptionDecl) : List Char → Except UsageFault Reading
  | [] => .ok ⟨[], none⟩
  | c :: rest =>
    match decls.find? (·.short = some c) with
    | none => .error (.unknownOption (OptionDecl.shortName c))
    | some decl =>
      if decl.takesValue then
        if rest.isEmpty then .ok ⟨[], some (decl, OptionDecl.shortName c)⟩
        else .ok ⟨[⟨decl, some (String.ofList rest)⟩], none⟩
      else
        match readShorts decls rest with
        | .error fault => .error fault
        | .ok reading => .ok { reading with given := ⟨decl, none⟩ :: reading.given }

/-- A name and the value behind an equals sign, if there is one. -/
def splitValue (arg : String) : String × Option String :=
  let (name, rest) := arg.toList.span (· ≠ '=')
  match rest with
  | _ :: value => (String.ofList name, some (String.ofList value))
  | [] => (arg, none)

/-- An argument with a hyphen in front. -/
def readOption (decls : List OptionDecl) (arg : String) : Except UsageFault Reading :=
  let (name, value) := splitValue arg
  match decls.find? (·.long = name), value with
  | some decl, some v =>
    if decl.takesValue then .ok ⟨[⟨decl, some v⟩], none⟩ else .error (.unwantedValue name)
  | some decl, none =>
    if decl.takesValue then .ok ⟨[], some (decl, name)⟩ else .ok ⟨[⟨decl, none⟩], none⟩
  | none, _ =>
    match arg.toList with
    | '-' :: '-' :: _ => .error (.unknownOption name)
    | _ :: shorts => readShorts decls shorts
    | [] => .ok ⟨[], none⟩

/-- Whether an argument is read as an option. -/
def isOption (arg : String) : Bool :=
  match arg.toList with
  | '-' :: _ :: _ => true
  | _ => false

/-- The options among arguments, and the arguments that are none.  Everything behind two hyphens is left
as it is; unless options may be `mixed` with other arguments, so is everything from the first argument on
that is no option. -/
def readArguments (decls : List OptionDecl) (mixed : Bool) :
    List String → Except UsageFault (List Given × List String)
  | [] => .ok ([], [])
  | arg :: rest =>
    if arg = "--" then .ok ([], rest)
    else if isOption arg then
      match readOption decls arg with
      | .error fault => .error fault
      | .ok ⟨given, none⟩ =>
        (readArguments decls mixed rest).map fun (more, left) => (given ++ more, left)
      | .ok ⟨given, some (decl, name)⟩ =>
        match rest with
        | [] => .error (.missingValue name)
        | value :: rest =>
          (readArguments decls mixed rest).map fun (more, left) =>
            (given ++ ⟨decl, some value⟩ :: more, left)
    else if mixed then
      (readArguments decls mixed rest).map fun (more, left) => (more, arg :: left)
    else .ok ([], arg :: rest)

/-- The value of an option. -/
inductive Value where
  | present
  | integer (n : Int)
  | text (s : String)
  deriving DecidableEq, Repr

/-- Check the value of an option; `existing` tells which paths exist. -/
def checkValue (existing : String → Bool) (given : Given) : Except UsageFault Value :=
  let s := given.value.getD ""
  let bad (reason : String) : Except UsageFault Value :=
    .error (.badValue given.decl.names reason)
  match given.decl.kind with
  | .flag => .ok .present
  | .text => .ok (.text s)
  | .integer =>
    match Digit.readInteger? s with
    | some n => .ok (.integer n)
    | none => bad (Quoted.quoted s ++ " is not a valid integer.")
  | .choice words anyCase =>
    match words.find? fun word => if anyCase then lower word = lower s else word = s with
    | some word => .ok (.text word)
    | none =>
      bad (Quoted.quoted s ++ " is not one of " ++
        joinText ", " (words.map Quoted.quoted) ++ ".")
  | .existingPath =>
    if existing s then .ok (.text s) else bad ("Path " ++ Quoted.quoted s ++ " does not exist.")

/-- The long names of the options given, each where it came first. -/
def firstNames : List Given → List String
  | [] => []
  | given :: more => given.decl.long :: (firstNames more).filter (· ≠ given.decl.long)

/-- The values of the options given, by their long names. -/
def checkValues (existing : String → Bool) (given : List Given) :
    Except UsageFault (List (String × Value)) :=
  (firstNames given).filterMapM fun name =>
    match given.findRev? (·.decl.long = name) with
    | some last => (checkValue existing last).map fun value => some (name, value)
    | none => .ok none

/-- Arguments without a hyphen in front are left as they are. -/
theorem readArguments_plain (decls : List OptionDecl) (mixed : Bool) (args : List String)
    (plain : ∀ arg ∈ args, isOption arg = false ∧ arg ≠ "--") :
    readArguments decls mixed args = .ok ([], args) := by
  induction args with
  | nil => rfl
  | cons arg rest ih =>
    have first := plain arg (List.mem_cons_self ..)
    rw [readArguments, if_neg first.2, if_neg (by simp [first.1])]
    cases mixed with
    | false => rfl
    | true => simp [ih fun a h => plain a (List.mem_cons_of_mem _ h), Except.map]

/-- Everything behind two hyphens is left as it is. -/
theorem readArguments_end (decls : List OptionDecl) (mixed : Bool) (args : List String) :
    readArguments decls mixed ("--" :: args) = .ok ([], args) := by
  simp [readArguments]

end Cutover.CommandLine
