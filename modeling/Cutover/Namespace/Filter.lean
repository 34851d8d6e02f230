import Cutover.Failure
import Cutover.Namespace.Pattern

/-!
# Namespace filters

The scope of a migration: the namespaces covered by its include patterns, or all of them if there are
none, less those covered by an exclude pattern.  A filter is built from two lists of entries as a whole
or not at all.  Main statement: `Filter.admits_iff`, which namespaces take part.
-/

namespace Cutover

/-- The scope of a migration. -/
structure Filter where
  included : List Pattern := []
  excluded : List Pattern := []
  deriving DecidableEq, Repr, Inhabited

/-- The entries that are no patterns: the first one with its fault, and all of them as shown in a
message. -/
structure BadEntries where
  first : Json
  fault : PatternFault
  shown : List String
  deriving BEq, Repr

/-- The failure under which an entry that is no pattern is reported by itself. -/
def PatternFault.failure (fault : PatternFault) (entry : Json) : Failure :=
  ⟨.invalidPattern (.str entry.displayText) (.str fault.message) [], "", []⟩

namespace Filter

/-- Whether every namespace is included. -/
def includesAll (f : Filter) : Bool :=
  f.included.isEmpty

/-- Whether an exclude pattern covers a namespace. -/
def isExcluded (f : Filter) (database collection : String) : Bool :=
  f.excluded.any (·.covers database collection)

/-- Whether a namespace is included. -/
def isIncluded (f : Filter) (database collection : String) : Bool :=
  f.includesAll || f.included.any (·.covers database collection)

/-- Whether a namespace takes part in the migration. -/
def admits (f : Filter) (database collection : String) : Bool :=
  !f.isExcluded database collection && f.isIncluded database collection

/-- The members under which the two lists of a filter are reported. -/
def payload (f : Filter) : Fields :=
  [("includeNamespaces", .ofTexts (f.included.map (·.text))),
    ("excludeNamespaces", .ofTexts (f.excluded.map (·.text)))]

/-- The pattern that an entry stands for. -/
def parseEntry : Json → Except PatternFault Pattern
  | .str s => Pattern.parse s
  | _ => .error .notText

/-- The pattern that an entry stands for, or the failure under which it is reported by itself. -/
def readEntry (entry : Json) : Except Failure Pattern :=
  (parseEntry entry).mapError (·.failure entry)

/-- The patterns of the entries that are patterns, each where it is found first. -/
def goodPatterns : List Json → List Pattern → List Pattern
  | [], found => found.reverse
  | entry :: entries, found =>
    match parseEntry entry with
    | .ok p => goodPatterns entries (if found.contains p then found else p :: found)
    | .error _ => goodPatterns entries found

/-- The entries that are no patterns, with their faults. -/
def badEntries (entries : List Json) : List (Json × PatternFault) :=
  entries.filterMap fun entry =>
    match parseEntry entry with
    | .ok _ => none
    | .error fault => some (entry, fault)

/-- The filter of two lists of entries, or all entries that are no patterns. -/
def build (included excluded : List Json) : Except BadEntries Filter :=
  match badEntries included ++ badEntries excluded with
  | [] => .ok ⟨goodPatterns included [], goodPatterns excluded []⟩
  | (entry, fault) :: more =>
    .error ⟨entry, fault, ((entry, fault) :: more).map (·.1.displayText)⟩

/-- A namespace takes part if it is covered by no exclude pattern and by some include pattern, unless
there are no include patterns. -/
theorem admits_iff (f : Filter) (database collection : String) :
    f.admits database collection = true ↔
      (∀ p ∈ f.excluded, p.covers database collection = false) ∧
        (f.included = [] ∨ ∃ p ∈ f.included, p.covers database collection = true) := by
  simp [admits, isExcluded, isIncluded, includesAll, List.isEmpty_iff]

end Filter

/-- The entries that a value offers where a list is expected: nothing if it counts as no, otherwise the
items of a list, the names of an object's members or the characters of a text. -/
def Json.entries? (value : Json) : Option (List Json) :=
  if !value.isTruthy then some []
  else
    match value with
    | .arr items => some items
    | .obj members => some (members.map (.str ·.1))
    | .str s => some (s.toList.map fun c => .str (String.ofList [c]))
    | _ => none

end Cutover
