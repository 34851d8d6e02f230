import Cutover.Namespace.Filter
import Cutover.Text.Blank
import Cutover.Text.Split

/-!
# Lists of namespaces as texts

Options name several namespaces in one text, with commas between them.  Main statement:
`Namespace.mem_items_iff`, the items of a text are what stands between its commas, without the blanks
around it and unless nothing is left.
-/

namespace Cutover.Namespace

open Text

/-- The items between the commas of a text, without blanks around them and without empty ones. -/
def items (s : String) : List String :=
  ((splitText ',' s).map trimText).filter (· ≠ "")

/-- The items of several texts, one text after the other. -/
def flatItems (texts : List String) : List String :=
  texts.flatMap items

/-- Why a value does not offer texts. -/
inductive ListingFault where
  /-- The value holds no entries. -/
  | noEntries
  /-- An entry is not a text. -/
  | notText
  deriving DecidableEq, Repr

/-- The texts among the entries of a value. -/
def entryTexts : List Json → Except ListingFault (List String)
  | [] => .ok []
  | .str s :: entries => (entryTexts entries).map (s :: ·)
  | _ :: _ => .error .notText

/-- The items of whatever value is offered as a list of texts. -/
def itemsOfValue (value : Json) : Except ListingFault (List String) :=
  match value.entries? with
  | none => .error .noEntries
  | some entries => (entryTexts entries).map flatItems

/-- The items of a text are what stands between its commas, without the blanks around it and unless
nothing is left. -/
theorem mem_items_iff (s item : String) :
    item ∈ items s ↔ item ≠ "" ∧ ∃ piece ∈ splitText ',' s, trimText piece = item := by
  simp [items, and_comm]

theorem flatItems_append (texts more : List String) :
    flatItems (texts ++ more) = flatItems texts ++ flatItems more := by
  simp [flatItems]

end Cutover.Namespace
