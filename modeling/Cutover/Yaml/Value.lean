import Cutover.Json.Printer
import Cutover.Yaml.Layout
import Cutover.Yaml.Node

/-!
# Values of documents

The value of a document.  Its outer parts are looked at before its inner ones, so of several faults the
one that is nearest to the outside is named, and of those the first.  Main statement:
`Node.value?_eq_ok_iff`, a document has a value exactly if none of its parts has a fault.
-/

namespace Cutover.Yaml

/-- The value of a part of a document. -/
inductive Value where
  | leaf (value : Json)
  /-- A time, a set or bytes without a counterpart among data values, or a part inside itself. -/
  | foreign
  | list (items : List Value)
  | table (entries : List (Value × Value))
  deriving Repr, Inhabited

namespace Node

/-- Whether a kind is that of parts that hold others. -/
def isContainer : Kind → Bool
  | .list | .table | .set | .entries => true
  | _ => false

/-- Put the faults of two parts together, depth by depth. -/
def together : List (List Fault) → List (List Fault) → List (List Fault)
  | [], more => more
  | faults, [] => faults
  | a :: faults, b :: more => (a ++ b) :: together faults more

/-- The faults of a text of a kind.  A text in place of a container is seen one step further in. -/
def leafFaults (kind : Kind) (content : String) : List (List Fault) :=
  if isContainer kind then [[], [.malformed]]
  else
    match kind.read content with
    | .ok _ => []
    | .error fault => [[fault]]

/-- The value of a text of a kind, if it has no fault. -/
def leaf (kind : Kind) (content : String) : Value :=
  match kind.read content with
  | .ok (some value) => .leaf value
  | _ => .foreign

mutual

/-- The text that a part stands for: a text itself, or what a table names by the sign for that. -/
def standIn? : Node → Option String
  | .text _ content => some content
  | .table _ _ entries => entriesStandIn? entries
  | _ => none

/-- The text of the first entry whose key is the sign for it. -/
def entriesStandIn? : List (Node × Node) → Option String
  | [] => none
  | (.text .standIn _, value) :: _ => standIn? value
  | _ :: entries => entriesStandIn? entries

end

mutual

/-- The faults of a part, depth by depth. -/
def faults : Node → List (List Fault)
  | .cycle => []
  | .text kind content => leafFaults kind content
  | .list kind items =>
    match kind with
    | .list => [] :: itemsFaults items
    | .entries => [] :: membersFaults items
    | .table | .set => [[], [.malformed]]
    | _ => [[.malformed]]
  | .table kind isSound entries =>
    match kind with
    | .table | .set => [] :: if isSound then entriesFaults entries else [[.malformed]]
    | .list | .entries => [[], [.malformed]]
    | _ =>
      match entriesStandIn? entries with
      | some content => leafFaults kind content
      | none => [[.malformed]]

/-- The faults of the members of a list. -/
def itemsFaults : List Node → List (List Fault)
  | [] => []
  | item :: items => together (faults item) (itemsFaults items)

/-- The faults of a list of entries: each member is a table of one entry. -/
def membersFaults : List Node → List (List Fault)
  | [] => []
  | .table _ _ [(key, value)] :: items =>
    together (faults key) (together (faults value) (membersFaults items))
  | _ :: _ => [[.malformed]]

/-- The faults of the entries of a table.  No key is a container. -/
def entriesFaults : List (Node × Node) → List (List Fault)
  | [] => []
  | (key, value) :: entries =>
    let keyFaults := match key with
      | .cycle => [[.malformed]]
      | .text .standIn _ => []
      | .text kind content => if isContainer kind then [[.malformed]] else leafFaults kind content
      | .list _ _ => [[.malformed]]
      | .table kind isSound inner =>
        if isContainer kind then [[.malformed]] else faults (.table kind isSound inner)
    together keyFaults (together (faults value) (entriesFaults entries))

end

mutual

/-- The value of a part without faults. -/
def value : Node → Value
  | .cycle => .foreign
  | .text kind content => leaf kind content
  | .list kind items => .list (if kind = .entries then membersValues items else itemsValues items)
  | .table kind _ entries =>
    match kind with
    | .table => .table (entriesValues entries)
    | .set => .foreign
    | _ =>
      match entriesStandIn? entries with
      | some content => leaf kind content
      | none => .foreign

/-- The values of the members of a list. -/
def itemsValues : List Node → List Value
  | [] => []
  | item :: items => value item :: itemsValues items

/-- The values of a list of entries, each of them a key and a value. -/
def membersValues : List Node → List Value
  | [] => []
  | .table _ _ [(key, content)] :: items => .list [value key, value content] :: membersValues items
  | _ :: items => membersValues items

/-- The values of the entries of a table.  Bytes are no text where they are a key. -/
def entriesValues : List (Node × Node) → List (Value × Value)
  | [] => []
  | (key, content) :: entries =>
    let key := match key with
      | .text .standIn content => .leaf (.str content)
      | .text .bytes _ => .foreign
      | .table .bytes _ _ => .foreign
      | .text kind content => leaf kind content
      | key => value key
    (key, value content) :: entriesValues entries

end

/-- The value of a part, or its outermost fault. -/
def value? (node : Node) : Except Fault Value :=
  match node.faults.flatten with
  | [] => .ok node.value
  | fault :: _ => .error fault

/-- A document has a value exactly if none of its parts has a fault. -/
theorem value?_eq_ok_iff (node : Node) (v : Value) :
    node.value? = .ok v ↔ (∀ level ∈ node.faults, level = []) ∧ node.value = v := by
  unfold value?
  cases h : node.faults.flatten with
  | nil => simpa using fun _ => List.flatten_eq_nil_iff.1 h
  | cons fault more =>
    have : ¬ ∀ level ∈ node.faults, level = [] := by
      intro e
      rw [List.flatten_eq_nil_iff.2 e] at h
      cases h
    simp [this]

end Node

namespace Value

/-- The number that a leaf is equal to: a truth value is equal to one or zero. -/
def wholeNumber? : Value → Option Int
  | .leaf (.bool b) => some (if b then 1 else 0)
  | .leaf (.int n) => some n
  | .leaf (.float x) => x.toInt?
  | _ => none

/-- Whether two keys are the same.  No key is a list or a table. -/
def isSameKey (a b : Value) : Bool :=
  match a.wholeNumber?, b.wholeNumber? with
  | some m, some n => m = n
  | none, none =>
    match a, b with
    | .leaf a, .leaf b => a = b
    | .foreign, .foreign => true
    | _, _ => false
  | _, _ => false

/-- Give a key a value: in its place if there is one, at the end otherwise. -/
def setEntry (key : Value) (content : Json) : List (Value × Json) → List (Value × Json)
  | [] => [(key, content)]
  | entry :: entries =>
    if isSameKey entry.1 key then (entry.1, content) :: entries
    else entry :: setEntry key content entries

/-- The name of a member with a key. -/
def keyName : Value → String
  | .leaf (.str name) => name
  | .leaf value => value.text
  | _ => ""

/-- The members of an object from the entries of a table, each key with the last value it is given. -/
def members (entries : List (Value × Json)) : Fields :=
  (entries.foldl (fun before entry => setEntry entry.1 entry.2 before) []).foldl
    (fun (fields : Fields) entry => fields.set (keyName entry.1) entry.2) []

mutual

/-- A value as a data value.  What has no counterpart is an empty list. -/
def toJson : Value → Json
  | .leaf value => value
  | .foreign => .arr []
  | .list items => .arr (itemsToJson items)
  | .table entries => .obj (members (entriesToJson entries))

/-- The members of a list as data values. -/
def itemsToJson : List Value → List Json
  | [] => []
  | item :: items => toJson item :: itemsToJson items

/-- The entries of a table with data values. -/
def entriesToJson : List (Value × Value) → List (Value × Json)
  | [] => []
  | (key, content) :: entries => (key, toJson content) :: entriesToJson entries

end

/-- Whether a value is a table with a key that is no text. -/
def hasForeignKey : Value → Bool
  | .table entries => entries.any fun entry =>
      match entry.1 with
      | .leaf (.str _) => false
      | _ => true
  | _ => false

end Value

/-- Whether a character may be in a document. -/
def isAllowed (c : Char) : Bool :=
  let n := c.toNat
  n = 9 || n = 10 || n = 13 || (0x20 ≤ n && n ≤ 0x7E) || n = 0x85 || (0xA0 ≤ n && n ≤ 0xFFFD) ||
    0x10000 ≤ n

/-- The value of a document. -/
def read? (text : String) : Except Fault Value :=
  let cs := text.toList
  if !cs.all isAllowed then .error .malformed
  else
    match (tokens? cs).bind Node.ofTokens? with
    | none => .error .malformed
    | some node => node.value?

end Cutover.Yaml
