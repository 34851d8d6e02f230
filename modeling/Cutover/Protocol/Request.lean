import Cutover.Lifecycle.Form

/-!
# Requests

The payloads of the five commands.  On the wire a field has a name in camel case; the name in snake case
is read as well, and the first wins where both are given.  Main statements: `ResumeRequest.check_wire`
and `FinalizeRequest.check_wire`, a request is read back from its wire form.
-/

namespace Cutover

open Checked

/-- The members of a payload that have a value. -/
def Fields.given (fields : Fields) : Fields :=
  fields.filter fun field => match field.2 with
    | .null => false
    | _ => true

theorem Fields.mem_given {fields : Fields} {field : String × Json} :
    field ∈ fields.given ↔ field ∈ fields ∧ field.2 ≠ .null := by
  obtain ⟨name, value⟩ := field
  rw [given, List.mem_filter]
  cases value <;> simp

/-- A list of texts, or nothing for an empty list. -/
def Checked.textsOrNothing : Json → Checked (List String)
  | .null => .ok []
  | value => texts value

/-- The names of the two lists of namespaces. -/
def includeNames : String × String := ("includeNamespaces", "include_namespaces")

/-- The names of the second list. -/
def excludeNames : String × String := ("excludeNamespaces", "exclude_namespaces")

/-- The payload of a start. -/
structure StartRequest where
  included : List String := []
  excluded : List String := []
  deriving DecidableEq, Repr

namespace StartRequest

/-- The name of the payload in a message. -/
def title : String := "StartRequest"

/-- The payload read from its members. -/
def ofFields (fields : Fields) : Checked StartRequest :=
  ((optionalField textsOrNothing [] fields includeNames).map StartRequest.mk).and
    (optionalField textsOrNothing [] fields excludeNames)

/-- The payload read from a value. -/
def check (value : Json) : Checked StartRequest :=
  (model title value).bind ofFields

/-- The members of the payload, under names picked by `pick`. -/
def fields (pick : String × String → String) (r : StartRequest) : Fields :=
  [(pick includeNames, .ofTexts r.included), (pick excludeNames, .ofTexts r.excluded)]

/-- The wire form of the payload. -/
def wire (r : StartRequest) : Json :=
  .obj (r.fields Prod.fst)

end StartRequest

/-- The payload of a command without arguments. -/
structure EmptyRequest where
  deriving DecidableEq, Repr

namespace EmptyRequest

/-- The payload read from a value; `title` is its name in a message. -/
def check (title : String) (value : Json) : Checked EmptyRequest :=
  (model title value).map fun _ => {}

end EmptyRequest

/-- The payload of a resume. -/
structure ResumeRequest where
  fromFailure : Bool := false
  deriving DecidableEq, Repr

namespace ResumeRequest

/-- The name of the payload in a message. -/
def title : String := "ResumeRequest"

/-- The names of its field. -/
def names : String × String := ("fromFailure", "from_failure")

/-- The payload read from its members. -/
def ofFields (fields : Fields) : Checked ResumeRequest :=
  (optionalField flag false fields names).map ResumeRequest.mk

/-- The payload read from a value. -/
def check (value : Json) : Checked ResumeRequest :=
  (model title value).bind ofFields

/-- The members of the payload, under names picked by `pick`. -/
def fields (pick : String × String → String) (r : ResumeRequest) : Fields :=
  [(pick names, .bool r.fromFailure)]

/-- The wire form of the payload. -/
def wire (r : ResumeRequest) : Json :=
  .obj (r.fields Prod.fst)

/-- A resume is read back from its wire form. -/
theorem check_wire (r : ResumeRequest) : check r.wire = .ok r := rfl

end ResumeRequest

/-- The payload of a finalize. -/
structure FinalizeRequest where
  ignoreHistoryLost : Bool := false
  deriving DecidableEq, Repr

namespace FinalizeRequest

/-- The name of the payload in a message. -/
def title : String := "FinalizeRequest"

/-- The names of its field. -/
def names : String × String := ("ignoreHistoryLost", "ignore_history_lost")

/-- The payload read from its members. -/
def ofFields (fields : Fields) : Checked FinalizeRequest :=
  (optionalField flag false fields names).map FinalizeRequest.mk

/-- The payload read from a value. -/
def check (value : Json) : Checked FinalizeRequest :=
  (model title value).bind ofFields

/-- The members of the payload, under names picked by `pick`. -/
def fields (pick : String × String → String) (r : FinalizeRequest) : Fields :=
  [(pick names, .bool r.ignoreHistoryLost)]

/-- The wire form of the payload. -/
def wire (r : FinalizeRequest) : Json :=
  .obj (r.fields Prod.fst)

/-- A finalize is read back from its wire form. -/
theorem check_wire (r : FinalizeRequest) : check r.wire = .ok r := rfl

end FinalizeRequest

end Cutover
