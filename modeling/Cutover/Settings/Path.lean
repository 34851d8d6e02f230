import Cutover.Text.Split

/-!
# Paths

Paths of files in their plain form, without steps that lead nowhere, and the suffixes of their names.
Main statement: `Path.steps_ne`, no step of a plain path is empty or stays in its place.
-/

namespace Cutover.Path

open Text

/-- The steps of a path that lead somewhere. -/
def steps (path : String) : List (List Char) :=
  (split '/' path.toList).filter fun step => step ≠ [] && step ≠ ['.']

/-- What a path begins with if it starts from the outside; two slashes are not the same as one. -/
def root (path : String) : List Char :=
  match path.toList with
  | '/' :: '/' :: '/' :: _ => ['/']
  | '/' :: '/' :: _ => ['/', '/']
  | '/' :: _ => ['/']
  | _ => []

/-- A path in its plain form. -/
def plain (path : String) : String :=
  let text := root path ++ join ['/'] (steps path)
  if text.isEmpty then "." else String.ofList text

/-- The name of what a path leads to. -/
def name (path : String) : List Char :=
  (steps path).getLast?.getD []

/-- The end of a name from its last point on.  A point at the beginning or at the end of a name makes no
suffix. -/
def suffix (path : String) : String :=
  let name := name path
  let last := (name.reverse.takeWhile (· != '.')).reverse
  let before := name.length - last.length
  if last.isEmpty || before < 2 then "" else String.ofList ('.' :: last)

/-- No step of a plain path is empty or stays in its place. -/
theorem steps_ne (path : String) : ∀ step ∈ steps path, step ≠ [] ∧ step ≠ ['.'] := by
  intro step h
  simpa [steps] using (List.mem_filter.1 h).2

end Cutover.Path
