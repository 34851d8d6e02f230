import Cutover.EngineName.Catalogue
import Cutover.Rehearsal.Engine
import Cutover.Text.Quoted

/-!
# Engines by name

The apply engine that a name of the form `part:engine` stands for.  What parts a program has, and what
names stand for in them, is data of its own, since the parts that engines come from need not be known to
this one.  Main statements: `EngineName.load_none`, the engine that only writes lines is used where none
is named, and `EngineName.load_eq_ok`, among the parts known here no other engine is ever found.
-/

namespace Cutover.EngineName

open Text

/-- A kind of apply engine. -/
structure Kind (ε : Type) where
  /-- The signals that it does not say how to take. -/
  unanswered : List String
  /-- The engine made of it.  None is made of a kind that leaves a signal open. -/
  make : unanswered = [] → ε

/-- What a name in a part of a program stands for. -/
inductive Meaning (ε : Type) where
  | engine (kind : Kind ε)
  | other

/-- Why a part of a program is not found by its name. -/
inductive Missing where
  | unknownPart (part : String)
  /-- It would be a part of something that has no parts. -/
  | notPackage (part package : String)
  deriving DecidableEq, Repr

/-- The wording of what is missing. -/
def Missing.message : Missing → String
  | .unknownPart part => s!"No module named {Quoted.quoted part}"
  | .notPackage part package =>
    s!"No module named {Quoted.quoted part}; {Quoted.quoted package} is not a package"

/-- Why a name stands for no engine. -/
inductive Fault where
  /-- It has not the form of a name of an engine. -/
  | badForm
  /-- It names a part by its place behind another one, which is not given. -/
  | relative
  | missing (reason : Missing)
  | unknownName (part name : String)
  | notEngine
  | abstractEngine
  deriving DecidableEq, Repr

/-- The wording of what is wrong with the name of an engine. -/
def Fault.message (path : String) : Fault → String
  | .badForm => s!"Invalid apply engine '{path}': expected 'package.module:ClassName'"
  | .relative => s!"Relative apply engine '{path}'"
  | .missing reason => s!"Cannot load apply engine '{path}': {reason.message}"
  | .unknownName part name =>
    s!"Cannot load apply engine '{path}': module '{part}' has no attribute '{name}'"
  | .notEngine => s!"'{path}' is not an ApplyEngine subclass"
  | .abstractEngine => s!"'{path}' is an abstract apply engine"

/-- The failure that a fault is reported as; a relative name is not foreseen. -/
def Fault.failure? (path : String) : Fault → Option Failure
  | .relative => none
  | fault => some ⟨.configuration (fault.message path), "", []⟩

/-- A program, as far as engines are looked for in it. -/
structure Program (π ε : Type) where
  /-- The part at a place that is told in full. -/
  find : String → Except Missing π
  /-- The name that a part goes by. -/
  title : π → String
  /-- What a name stands for in a part that knows it. -/
  meaning? : π → String → Option (Meaning ε)

namespace Program

variable {π ε : Type}

/-- Import the part with a name.  A point in front of the name tells a place behind another part, and
without that part nothing is looked for. -/
def importPart (program : Program π ε) (name : String) : Except Fault π :=
  if name.toList.head? = some '.' then .error .relative
  else
    match program.find name with
    | .ok part => .ok part
    | .error reason => .error (.missing reason)

/-- The engine that a name stands for in a part. -/
def engineIn (program : Program π ε) (part : π) (name : String) : Except Fault ε :=
  match program.meaning? part name with
  | none => .error (.unknownName (program.title part) name)
  | some .other => .error .notEngine
  | some (.engine kind) =>
    if complete : kind.unanswered = [] then .ok (kind.make complete) else .error .abstractEngine

/-- The engine that a name stands for in the part with a name. -/
def lookUp (program : Program π ε) (part name : String) : Except Fault ε :=
  match program.importPart part with
  | .ok part => program.engineIn part name
  | .error fault => .error fault

/-- The engine that a path stands for: the first colon stands between a part and a name in it. -/
def engineAt (program : Program π ε) (path : String) : Except Fault ε :=
  match path.toList.span (· != ':') with
  | (_, []) => .error .badForm
  | ([], _) => .error .badForm
  | (_, [_]) => .error .badForm
  | (part, _ :: name) => program.lookUp (String.ofList part) (String.ofList name)

/-- The engine that a path stands for; where none is named, it is the usual one. -/
def load (program : Program π ε) (usual : ε) : Option String → Except Fault ε
  | none => .ok usual
  | some path => if path = "" then .ok usual else program.engineAt path

end Program

/-! ### The parts known here -/

/-- What a name known to a part stands for. -/
def Meaning.ofName (name : String) : Meaning Engine :=
  if name = Engine.className .logging then .engine ⟨[], fun _ => .logging⟩
  else if name = "ApplyEngine" then .engine ⟨["start", "pause", "resume", "finalize"], nofun⟩
  else .other

/-- The part with a name; the steps to it are looked up one after the other behind `found`. -/
def findSteps (parts : List Part) : Option Part → List (List Char) → Except Missing (Option Part)
  | found, [] => .ok found
  | found, step :: steps =>
    let name := match found with
      | none => String.ofList step
      | some part => part.name ++ "." ++ String.ofList step
    match found.filter (!·.isPackage), parts.find? (·.name = name) with
    | some part, _ => .error (.notPackage name part.name)
    | none, some part => findSteps parts (some part) steps
    | none, none => .error (.unknownPart name)

/-- The part with a name. -/
def findPart (parts : List Part) (name : String) : Except Missing Part :=
  match findSteps parts none (split '.' name.toList) with
  | .ok (some part) => .ok part
  | .ok none => .error (.unknownPart name)
  | .error reason => .error reason

/-- The program that consists of some parts. -/
def ofParts (parts : List Part) : Program Part Engine where
  find := findPart parts
  title := Part.name
  meaning? part name := if part.knows name then some (.ofName name) else none

/-- The engine that a name stands for; where none is named, it is the one that only writes lines. -/
def load (path : Option String) : Except Fault Engine :=
  (ofParts catalogue).load .logging path

/-- Where no engine is named, it is the one that only writes lines. -/
@[simp] theorem load_none : load none = .ok .logging := rfl

/-- A kind of engine among the parts known here makes the engine that only writes lines. -/
theorem Meaning.make_ofName {name : String} {kind : Kind Engine} (h : Meaning.ofName name = .engine kind)
    (complete : kind.unanswered = []) : kind.make complete = .logging := by
  unfold Meaning.ofName at h
  split at h
  · cases h
    rfl
  · split at h
    · cases h
      cases complete
    · cases h

theorem engineIn_eq_ok {parts : List Part} {part : Part} {name : String} {engine : Engine}
    (h : (ofParts parts).engineIn part name = .ok engine) : engine = .logging := by
  unfold Program.engineIn at h
  split at h
  case h_1 => contradiction
  case h_2 => contradiction
  case h_3 kind hmeaning =>
    split at h
    case isFalse => contradiction
    case isTrue complete =>
      have hname : Meaning.ofName name = .engine kind := by
        simp only [ofParts] at hmeaning
        split at hmeaning
        · exact Option.some.inj hmeaning
        · contradiction
      exact (Except.ok.inj h).symm.trans (Meaning.make_ofName hname complete)

/-- No other engine is ever found. -/
theorem load_eq_ok {path : Option String} {engine : Engine} (h : load path = .ok engine) :
    engine = .logging := by
  match path with
  | none => simpa using h.symm
  | some path =>
    unfold load Program.load at h
    dsimp only at h
    split at h
    · exact (Except.ok.inj h).symm
    · unfold Program.engineAt at h
      split at h <;> try contradiction
      unfold Program.lookUp at h
      split at h
      · exact engineIn_eq_ok h
      · contradiction

end Cutover.EngineName
