/-!
# Splitting at a separator

The pieces of a text between the occurrences of one character, and the text that joins pieces again.
Main statements: `join_split`, joining the pieces gives the text back, `not_mem_of_mem_split`, no piece
holds the separator, and `split_append`, a text is split on both sides of a separator by itself.
-/

namespace Cutover.Text

/-- The pieces of a text between the occurrences of `sep`; there is always at least one. -/
def split (sep : Char) : List Char → List (List Char)
  | [] => [[]]
  | c :: cs =>
    if c = sep then [] :: split sep cs
    else
      match split sep cs with
      | [] => [[c]]
      | piece :: pieces => (c :: piece) :: pieces

/-- The pieces with `sep` between any two neighbours. -/
def join (sep : List Char) : List (List Char) → List Char
  | [] => []
  | [piece] => piece
  | piece :: next :: pieces => piece ++ sep ++ join sep (next :: pieces)

/-- `split` on strings. -/
def splitText (sep : Char) (s : String) : List String :=
  (split sep s.toList).map String.ofList

/-- `join` on strings. -/
def joinText (sep : String) (pieces : List String) : String :=
  String.ofList (join sep.toList (pieces.map String.toList))

/-- The text of lines, each with the break that ends it. -/
def linesText (lines : List String) : String :=
  String.ofList (lines.flatMap fun line => line.toList ++ ['\n'])

theorem split_ne_nil (sep : Char) (cs : List Char) : split sep cs ≠ [] := by
  cases cs with
  | nil => simp [split]
  | cons c cs =>
    rw [split]
    split
    · simp
    · split <;> simp

@[simp] theorem join_nil (sep : List Char) : join sep [] = [] := rfl

@[simp] theorem join_singleton (sep piece : List Char) : join sep [piece] = piece := rfl

theorem join_cons_cons (sep piece next : List Char) (pieces : List (List Char)) :
    join sep (piece :: next :: pieces) = piece ++ sep ++ join sep (next :: pieces) := rfl

/-- Joining the pieces gives the text back. -/
theorem join_split (sep : Char) (cs : List Char) : join [sep] (split sep cs) = cs := by
  induction cs with
  | nil => rfl
  | cons c cs ih =>
    rw [split]
    cases h : split sep cs with
    | nil => exact absurd h (split_ne_nil sep cs)
    | cons piece pieces =>
      rw [h] at ih
      by_cases hc : c = sep
      · simp [hc, join_cons_cons, ih]
      · cases pieces with
        | nil => simp_all
        | cons next rest => simp_all [join_cons_cons]

/-- What stands before a separator and what stands after it are split by themselves. -/
theorem split_append (sep : Char) (before after : List Char) :
    split sep (before ++ sep :: after) = split sep before ++ split sep after := by
  induction before with
  | nil => simp [split]
  | cons c before ih =>
    rw [List.cons_append, split, split, ih]
    by_cases hc : c = sep
    · rw [if_pos hc, if_pos hc, List.cons_append]
    · cases hs : split sep before with
      | nil => exact absurd hs (split_ne_nil sep before)
      | cons piece pieces => simp [hc]

/-- A text without the separator is in one piece. -/
theorem split_of_not_mem {sep : Char} {piece : List Char} (h : sep ∉ piece) :
    split sep piece = [piece] := by
  induction piece with
  | nil => rfl
  | cons c cs ih =>
    rw [List.mem_cons, not_or] at h
    rw [split, if_neg (Ne.symm h.1), ih h.2]

/-- What stands before the first separator is the first piece. -/
theorem split_append_cons {sep : Char} {piece : List Char} (h : sep ∉ piece) (cs : List Char) :
    split sep (piece ++ sep :: cs) = piece :: split sep cs := by
  rw [split_append, split_of_not_mem h, List.singleton_append]

/-- No piece holds the separator. -/
theorem not_mem_of_mem_split {sep : Char} {cs piece : List Char} (h : piece ∈ split sep cs) :
    sep ∉ piece := by
  induction cs generalizing piece with
  | nil => simp_all [split]
  | cons c cs ih =>
    rw [split] at h
    cases hs : split sep cs with
    | nil => exact absurd hs (split_ne_nil sep cs)
    | cons first rest =>
      rw [hs] at h ih
      by_cases hc : c = sep
      · rcases (by simpa [hc] using h : piece = [] ∨ piece = first ∨ piece ∈ rest) with rfl | h | h
        · simp
        · exact ih (by simp [h])
        · exact ih (by simp [h])
      · rcases (by simpa [hc] using h : piece = c :: first ∨ piece ∈ rest) with rfl | h
        · simp only [List.mem_cons, not_or]
          exact ⟨fun e => hc e.symm, ih (by simp)⟩
        · exact ih (by simp [h])

/-- The pieces of a joined text are the pieces of its parts, part by part. -/
theorem split_join_eq_flatMap (sep : Char) {parts : List (List Char)} (hne : parts ≠ []) :
    split sep (join [sep] parts) = parts.flatMap (split sep) := by
  induction parts with
  | nil => exact absurd rfl hne
  | cons part parts ih =>
    cases parts with
    | nil => rw [join_singleton, List.flatMap_singleton]
    | cons next parts =>
      rw [join_cons_cons, List.append_assoc, List.singleton_append, split_append,
        ih (List.cons_ne_nil next parts)]
      exact List.flatMap_cons.symm

/-! ### Strings -/

variable {sep : Char} {glue s piece : String} {parts : List String}

theorem splitText_ne_nil (sep : Char) (s : String) : splitText sep s ≠ [] := by
  simpa [splitText] using split_ne_nil sep s.toList

theorem splitText_of_not_mem (h : sep ∉ s.toList) : splitText sep s = [s] := by
  rw [splitText, split_of_not_mem h, List.map_singleton, String.ofList_toList]

theorem not_mem_of_mem_splitText (h : piece ∈ splitText sep s) : sep ∉ piece.toList := by
  obtain ⟨cs, hcs, rfl⟩ := List.mem_map.mp h
  rw [String.toList_ofList]
  exact not_mem_of_mem_split hcs

theorem splitText_joinText (hglue : glue.toList = [sep]) (hne : parts ≠ []) :
    splitText sep (joinText glue parts) = parts.flatMap (splitText sep) := by
  have hparts : parts.map String.toList ≠ [] := by simpa using hne
  rw [splitText, joinText, String.toList_ofList, hglue, split_join_eq_flatMap sep hparts,
    List.flatMap_map, List.map_flatMap]
  rfl

theorem joinText_splitText (hglue : glue.toList = [sep]) (s : String) :
    joinText glue (splitText sep s) = s := by
  have hpieces : (splitText sep s).map String.toList = split sep s.toList := by simp [splitText]
  rw [joinText, hpieces, hglue, join_split, String.ofList_toList]

end Cutover.Text
