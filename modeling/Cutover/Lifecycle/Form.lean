import Cutover.Lifecycle.Snapshot
import Cutover.Validation.Forms

/-!
# Snapshots as values

Patterns, filters, records and snapshots as values of the data format: the values they are written to, and
the checks of values they are read from.
-/

namespace Cutover

open Checked

/-- Both names of a field that has only one. -/
def Checked.oneName (name : String) : String × String := (name, name)

/-- A state by its name. -/
def State.check (value : Json) : Checked State :=
  match value with
  | .str name =>
    match State.ofName? name with
    | some state => .ok state
    | none => fault (.notOneOf State.choices)
  | _ => fault (.notOneOf State.choices)

/-- A state is read from its value. -/
@[simp] theorem State.check_toJson (state : State) : State.check state.toJson = .ok state := by
  simp only [toJson, check, ofName?_name]

/-- The members of a model's value, or the fault that it is none. -/
def Checked.model (name : String) (value : Json) : Checked Fields :=
  match value with
  | .obj members => .ok members
  | _ => fault (.notModel name)

namespace Pattern

/-- A pattern from a value with its two names. -/
def check (value : Json) : Checked Pattern :=
  (Checked.model "NamespacePattern" value).bind fun fields =>
    ((requiredField Checked.text fields (oneName "database")).map Pattern.mk).and
      (requiredField Checked.text fields (oneName "collection"))

/-- A pattern as a value. -/
def toJson (p : Pattern) : Json :=
  .obj [("database", .str p.database), ("collection", .str p.collection)]

end Pattern

namespace Filter

/-- A filter from a value with its two lists. -/
def check (value : Json) : Checked Filter :=
  (Checked.model "NamespaceFilter" value).bind fun fields =>
    ((optionalField (tuple Pattern.check) [] fields (oneName "include")).map Filter.mk).and
      (optionalField (tuple Pattern.check) [] fields (oneName "exclude"))

/-- A filter as a value. -/
def toJson (f : Filter) : Json :=
  .obj [("include", .arr (f.included.map (·.toJson))), ("exclude", .arr (f.excluded.map (·.toJson)))]

end Filter

namespace Record

/-- A record from a value; its time is `now` unless it is given. -/
def check (now : Timestamp) (value : Json) : Checked Record :=
  (Checked.model "TransitionRecord" value).bind fun fields =>
    (((((requiredField Checked.text fields (oneName "command")).map Record.mk).and
      (requiredField State.check fields (oneName "from_state"))).and
      (requiredField State.check fields (oneName "to_state"))).and
      (optionalField Checked.timestamp now fields (oneName "timestamp"))).and
      (optionalField mapping [] fields (oneName "detail"))

/-- A record as a value. -/
def toJson (r : Record) : Json :=
  .obj [("command", .str r.command), ("from_state", r.source.toJson), ("to_state", r.target.toJson),
    ("timestamp", .str r.timestamp.wireText), ("detail", .obj r.detail)]

end Record

namespace Snapshot

/-- A filter or nothing. -/
def checkFilter : Json → Checked (Option Filter)
  | .null => .ok none
  | value => (Filter.check value).map some

/-- A snapshot from a value; what is not given is as in a fresh snapshot. -/
def check (now : Timestamp) (value : Json) : Checked Snapshot :=
  (Checked.model "MigrationSnapshot" value).bind fun fields =>
    ((((((optionalField State.check .idle fields (oneName "state")).map Snapshot.mk).and
      (optionalField checkFilter none fields (oneName "namespace_filter"))).and
      ((optionalField optionalText none fields (oneName "failure_reason")).map Json.ofText?)).and
      (optionalField flag false fields (oneName "history_lost"))).and
      (optionalField (tuple (Record.check now)) [] fields (oneName "history"))).and
      (optionalField Checked.timestamp now fields (oneName "updated_at"))

/-- The details that a value stands for; one that counts as no stands for none. -/
def checkDetail (value : Json) : Checked Fields :=
  if value.isTruthy then mapping value else .ok []

/-- A recorded change of state under whatever values are offered as its command and details. -/
def moveToChecked (s : Snapshot) (command : Json) (target : State) (detail : Json)
    (now : Timestamp) : Checked Snapshot :=
  (((Checked.text command).under (.member "command")).map fun command detail =>
    s.moveTo command target detail now).and ((checkDetail detail).under (.member "detail"))

/-- A snapshot as a value. -/
def toJson (s : Snapshot) : Json :=
  .obj [("state", s.state.toJson),
    ("namespace_filter", (s.filter.map (·.toJson)).getD .null),
    ("failure_reason", s.failureReason),
    ("history_lost", .bool s.historyLost),
    ("history", .arr (s.history.map (·.toJson))),
    ("updated_at", .str s.updatedAt.wireText)]

end Snapshot

end Cutover
