import Cutover.Lifecycle.Snapshot

/-!
# Audit events

What the audit trail of a migration records: every change of state, a loss of history, and signals that
the apply engine did not take.
-/

namespace Cutover.Audit

/-- An event of the audit trail. -/
structure Event where
  kind : String
  command : Option String
  state : Option String
  details : Fields
  deriving BEq, Repr

namespace Event

/-- The event of a recorded change of state.  Its details are those of the record, beside the states
between which the change went. -/
def ofRecord (record : Record) : Event where
  kind := "transition"
  command := some record.command
  state := some record.target.name
  details :=
    Fields.update
      [("from_state", record.source.toJson), ("to_state", record.target.toJson)] record.detail

/-- The event of a loss of history. -/
def historyLost (state : State) : Event :=
  ⟨"history_lost", none, some state.name, []⟩

/-- The event of a signal that the apply engine did not take. -/
def signalFailed (command : String) (state : State) (cause : String) : Event :=
  ⟨"engine_signal_failed", some command, some state.name, [("error", .str cause)]⟩

end Event

end Cutover.Audit
