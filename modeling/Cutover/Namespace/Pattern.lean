import Cutover.Text.Blank
import Cutover.Text.Numeral
import Cutover.Text.Split

/-!
# Namespace patterns

A namespace is a collection of a database, written `database.collection`.  A pattern names one namespace
or, as `database.*`, every collection of a database.  Main statement: `Pattern.covers_iff`, when a
pattern covers a namespace.
-/

namespace Cutover

/-- A pattern over namespaces. -/
structure Pattern where
  database : String
  collection : String
  deriving DecidableEq, Repr, Inhabited

/-- Why a text is no pattern. -/
inductive PatternFault where
  | notText
  | empty
  | separators (found : Nat)
  | emptyDatabase
  | emptyCollection
  | badDatabase (name : String)
  | badCollection (name : String)
  deriving DecidableEq, Repr

/-- The wording of a fault. -/
def PatternFault.message : PatternFault → String
  | .notText => "pattern must be a string"
  | .empty => "empty pattern"
  | .separators found =>
    "expected exactly one '.' separator, found " ++ Text.Numeral.natText found
  | .emptyDatabase => "empty database name"
  | .emptyCollection => "empty collection name"
  | .badDatabase name => "invalid database name '" ++ name ++ "'"
  | .badCollection name => "invalid collection name '" ++ name ++ "'"

namespace Pattern

open Text

/-- The collection that stands for all collections of a database. -/
def wildcard : String := "*"

/-- Whether a pattern covers a whole database. -/
def isWildcard (p : Pattern) : Bool :=
  p.collection = wildcard

/-- Whether a pattern covers a namespace. -/
def covers (p : Pattern) (database collection : String) : Bool :=
  database = p.database && (p.isWildcard || collection = p.collection)

/-- The text of a pattern. -/
def text (p : Pattern) : String :=
  p.database ++ "." ++ p.collection

/-- Letters, digits, underscore and hyphen. -/
def isNameChar (c : Char) : Bool :=
  c.isAlphanum || c = '_' || c = '-'

/-- A text without the line break that may end it. -/
def dropLineEnd (cs : List Char) : List Char :=
  match cs.reverse with
  | '\n' :: rest => rest.reverse
  | _ => cs

/-- A database name consists of name characters.  One line break is let through at its end. -/
def isDatabaseName (cs : List Char) : Bool :=
  let name := dropLineEnd cs
  !name.isEmpty && name.all isNameChar

/-- A collection name starts with a name character; a dollar sign may occur after that. -/
def isCollectionName : List Char → Bool
  | [] => false
  | first :: rest => isNameChar first && rest.all fun c => isNameChar c || c = '$'

/-- Check the two names of a pattern. -/
def ofNames (database collection : List Char) : Except PatternFault Pattern :=
  if database.isEmpty then .error .emptyDatabase
  else if collection.isEmpty then .error .emptyCollection
  else if !isDatabaseName database then .error (.badDatabase (String.ofList database))
  else if collection ≠ ['*'] && !isCollectionName collection then
    .error (.badCollection (String.ofList collection))
  else .ok ⟨String.ofList database, String.ofList collection⟩

/-- The pattern that a text stands for, without the blanks around it. -/
def parse (s : String) : Except PatternFault Pattern :=
  let cs := trim s.toList
  if cs.isEmpty then .error .empty
  else
    match split '.' cs with
    | [database, collection] => ofNames database collection
    | pieces => .error (.separators (pieces.length - 1))

/-- A pattern covers a namespace of its own database: its own collection, or any if it covers all. -/
theorem covers_iff (p : Pattern) (database collection : String) :
    p.covers database collection = true ↔
      database = p.database ∧ (p.collection = wildcard ∨ collection = p.collection) := by
  simp [covers, isWildcard]

end Pattern

end Cutover
