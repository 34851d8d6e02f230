import Cutover.CommandLine.Markup
import Cutover.Text.Width

/-!
# Text and tables on a terminal

Lines of marked up text, and a table of two columns with a title and a frame.  Widths are counted in the
columns of a terminal.  Main statement: `width_padded`, a text is brought to a width unless it is wider.
-/

namespace Cutover.CommandLine

open Text

/-- Blanks up to the next multiple of eight columns in place of every tab. -/
def expandTabs (column : Nat) : List Char → List Char
  | [] => []
  | '\t' :: cs =>
    let gap := 8 - column % 8
    List.replicate gap ' ' ++ expandTabs (column + gap) cs
  | c :: cs => c :: expandTabs (column + columns c) cs

/-- The lines of a text as they are shown. -/
def shownLines (cs : List Char) : List (List Char) :=
  (split '\n' cs).map (expandTabs 0)

/-- A marked up text as it is shown, with a line break at the end. -/
def shownText (s : String) : Except Markup.Fault String :=
  (Markup.show? s).map fun cs => String.ofList (join ['\n'] (shownLines cs) ++ ['\n'])

/-- A text brought to a width by blanks behind it. -/
def padded (n : Nat) (cs : List Char) : List Char :=
  cs ++ List.replicate (n - width cs) ' '

/-- A text in the middle of a width; an odd blank comes behind it. -/
def centred (n : Nat) (cs : List Char) : List Char :=
  padded n (List.replicate ((n - width cs) / 2) ' ' ++ cs)

theorem width_replicate_blank (n : Nat) : width (List.replicate n ' ') = n := by
  induction n with
  | zero => rfl
  | succ n ih =>
    rw [List.replicate_succ', width_append, ih]
    rfl

/-- A text is brought to a width unless it is wider. -/
theorem width_padded (n : Nat) (cs : List Char) : width (padded n cs) = max n (width cs) := by
  rw [padded, width_append, width_replicate_blank]
  omega

/-- A row of a table: a name and a value. -/
abbrev Row := List Char × List Char

/-- The greatest width of the lines of a text. -/
def cellWidth (cs : List Char) : Nat :=
  ((split '\n' cs).map width).foldl max 0

/-- A line of a table's frame. -/
def frameLine (left middle right : Char) (first second : Nat) : List Char :=
  left :: List.replicate (first + 2) '─' ++ middle :: List.replicate (second + 2) '─' ++ [right]

/-- A line of a table's row. -/
def rowLine (first second : Nat) (name value : List Char) : List Char :=
  ['│', ' '] ++ padded first name ++ [' ', '│', ' '] ++ padded second value ++ [' ', '│']

/-- The lines of a row; a text that ends before the other is followed by empty lines. -/
def rowLines (first second : Nat) (row : Row) : List (List Char) :=
  let names := shownLines row.1
  let values := shownLines row.2
  (List.range (max names.length values.length)).map fun i =>
    rowLine first second ((names[i]?).getD []) ((values[i]?).getD [])

/-- A table with a title above it. -/
def tableLines (title : List Char) (rows : List Row) : List (List Char) :=
  let first := (rows.map fun row => cellWidth row.1).foldl max 0
  let second := (rows.map fun row => cellWidth row.2).foldl max 0
  centred (first + second + 7) title :: frameLine '╭' '┬' '╮' first second ::
    rows.flatMap (rowLines first second) ++ [frameLine '╰' '┴' '╯' first second]

/-- A table as text. -/
def tableText (title : String) (rows : List Row) : String :=
  String.ofList ((tableLines title.toList rows).flatMap (· ++ ['\n']))

end Cutover.CommandLine
