import Cutover.Json.Basic
import Cutover.Time.Reader

/-!
# Checked input

The faults that are found when a value is checked against a form, and checks that gather all faults of
their parts.  Main statements: `Checked.and_eq_ok_iff`, two checks pass together when each passes, and
`Checked.and_faulty`, the faults of both are kept in their order.
-/

namespace Cutover

/-- A step from a value to one of its parts. -/
inductive Place where
  | member (name : String)
  | item (index : Nat)
  deriving DecidableEq, Repr

/-- What is wrong with a value. -/
inductive FaultKind where
  | missing
  | notText
  | notFlag
  | unreadFlag
  | notInteger
  | unreadInteger
  | fractional
  | oversized
  | notFinite
  | tooSmall (least : Int)
  | tooLarge (greatest : Int)
  | notList
  | notTuple
  | notMapping
  | notModel (model : String)
  | notFields
  | notOneOf (choices : String)
  | notTimestamp
  | unreadTimestamp (fault : DateFault)
  | timestampBeyond (fault : DateFault)
  | refused (reason : String)
  | unreadBody
  deriving DecidableEq, Repr

namespace FaultKind

/-- The name of a fault. -/
def name : FaultKind → String
  | .missing => "missing"
  | .notText => "string_type"
  | .notFlag => "bool_type"
  | .unreadFlag => "bool_parsing"
  | .notInteger => "int_type"
  | .unreadInteger => "int_parsing"
  | .fractional => "int_from_float"
  | .oversized => "int_parsing_size"
  | .notFinite => "finite_number"
  | .tooSmall _ => "greater_than_equal"
  | .tooLarge _ => "less_than_equal"
  | .notList => "list_type"
  | .notTuple => "tuple_type"
  | .notMapping => "dict_type"
  | .notModel _ => "model_type"
  | .notFields => "model_attributes_type"
  | .notOneOf _ => "enum"
  | .notTimestamp => "datetime_type"
  | .unreadTimestamp _ => "datetime_from_date_parsing"
  | .timestampBeyond _ => "datetime_parsing"
  | .refused _ => "value_error"
  | .unreadBody => "json_invalid"

/-- The wording of a fault. -/
def message : FaultKind → String
  | .missing => "Field required"
  | .notText => "Input should be a valid string"
  | .notFlag => "Input should be a valid boolean"
  | .unreadFlag => "Input should be a valid boolean, unable to interpret input"
  | .notInteger => "Input should be a valid integer"
  | .unreadInteger => "Input should be a valid integer, unable to parse string as an integer"
  | .fractional => "Input should be a valid integer, got a number with a fractional part"
  | .oversized => "Unable to parse input string as an integer, exceeded maximum size"
  | .notFinite => "Input should be a finite number"
  | .tooSmall least =>
    "Input should be greater than or equal to " ++ Text.Numeral.intText least
  | .tooLarge greatest =>
    "Input should be less than or equal to " ++ Text.Numeral.intText greatest
  | .notList => "Input should be a valid list"
  | .notTuple => "Input should be a valid tuple"
  | .notMapping => "Input should be a valid dictionary"
  | .notModel model => "Input should be a valid dictionary or instance of " ++ model
  | .notFields => "Input should be a valid dictionary or object to extract fields from"
  | .notOneOf choices => "Input should be " ++ choices
  | .notTimestamp => "Input should be a valid datetime"
  | .unreadTimestamp fault => "Input should be a valid datetime or date, " ++ fault.message
  | .timestampBeyond fault => "Input should be a valid datetime, " ++ fault.message
  | .refused reason => "Value error, " ++ reason
  | .unreadBody => "JSON decode error"

end FaultKind

/-- A fault and the way from the checked value to where it was found. -/
structure Fault where
  place : List Place
  kind : FaultKind
  deriving DecidableEq, Repr

/-- What a check gives: the value it was asked for, or all faults found. -/
inductive Checked (α : Type) where
  | ok (value : α)
  | faulty (faults : List Fault)
  deriving DecidableEq, Repr

namespace Checked

variable {α β γ : Type}

/-- A single fault at the checked value itself. -/
def fault (kind : FaultKind) : Checked α :=
  .faulty [⟨[], kind⟩]

/-- Apply a function to a checked value. -/
def map (f : α → β) : Checked α → Checked β
  | .ok a => .ok (f a)
  | .faulty faults => .faulty faults

/-- Apply a checked function to a checked value, keeping the faults of both. -/
def and : Checked (α → β) → Checked α → Checked β
  | .ok f, .ok a => .ok (f a)
  | .ok _, .faulty faults => .faulty faults
  | .faulty faults, .ok _ => .faulty faults
  | .faulty faults, .faulty more => .faulty (faults ++ more)

/-- Go on with the value of a check that passed. -/
def bind (a : Checked α) (next : α → Checked β) : Checked β :=
  match a with
  | .ok a => next a
  | .faulty faults => .faulty faults

/-- The check of a part: its faults lie one step further from the whole. -/
def under (place : Place) : Checked α → Checked α
  | .ok a => .ok a
  | .faulty faults => .faulty (faults.map fun fault => { fault with place := place :: fault.place })

/-- Check every item of a list, counted from `index`. -/
def items (check : Json → Checked α) : Nat → List Json → Checked (List α)
  | _, [] => .ok []
  | index, value :: values =>
    (((check value).under (.item index)).map List.cons).and (items check (index + 1) values)

@[simp] theorem and_ok (f : α → β) (a : α) : (ok f).and (ok a) = ok (f a) := rfl

@[simp] theorem map_ok (f : α → β) (a : α) : (ok a).map f = ok (f a) := rfl

@[simp] theorem under_ok (place : Place) (a : α) : (ok a).under place = ok a := rfl

/-- Two checks pass together when each passes. -/
theorem and_eq_ok_iff {f : Checked (α → β)} {a : Checked α} {b : β} :
    f.and a = ok b ↔ ∃ g x, f = ok g ∧ a = ok x ∧ g x = b := by
  cases f <;> cases a <;> simp [and]

/-- The faults of both checks are kept in their order. -/
theorem and_faulty (faults more : List Fault) :
    (faulty faults : Checked (α → β)).and (faulty more) = faulty (faults ++ more) := rfl

theorem map_eq_ok_iff {a : Checked α} {f : α → β} {b : β} :
    a.map f = ok b ↔ ∃ x, a = ok x ∧ f x = b := by
  cases a <;> simp [map]

theorem under_eq_ok_iff {place : Place} {a : Checked α} {x : α} :
    a.under place = ok x ↔ a = ok x := by
  cases a <;> simp [under]

end Checked

end Cutover
