import Cutover.Text.Blank

/-!
# Places in a document

A place in a document of settings: what follows it, and the line and column that it is in.  Main
statement: `Cursor.index_advance`, a cursor moves on by as many characters as it is told to, as far as
there are some.
-/

namespace Cutover.Yaml

/-- Whether a character ends a line. -/
def isBreak (c : Char) : Bool :=
  c = '\n' || c = '\x85' || c = '\u2028' || c = '\u2029'

/-- Whether a character is a blank or a tab. -/
def isSpace (c : Char) : Bool :=
  c = ' ' || c = '\t'

/-- Whether a line ends here: nothing or the end of a line is next. -/
def isLineEnd : Option Char → Bool
  | none => true
  | some c => isBreak c

/-- Whether there is a gap here: nothing, a blank, a tab or the end of a line is next. -/
def isGap : Option Char → Bool
  | none => true
  | some c => isSpace c || isBreak c

/-- A place in a document. -/
structure Cursor where
  rest : List Char
  line : Nat := 0
  column : Nat := 0
  index : Nat := 0
  deriving Repr

namespace Cursor

/-- The character that comes next. -/
def next? (c : Cursor) : Option Char :=
  c.rest.head?

/-- The character that comes after the next one. -/
def second? (c : Cursor) : Option Char :=
  (c.rest.drop 1).head?

/-- The place behind the next character.  The mark of an encoding takes no column. -/
def step (c : Cursor) : Cursor :=
  match c.rest with
  | [] => c
  | d :: rest =>
    if isBreak d then ⟨rest, c.line + 1, 0, c.index + 1⟩
    else ⟨rest, c.line, if d = '\uFEFF' then c.column else c.column + 1, c.index + 1⟩

/-- The place a number of characters further on. -/
def advance (c : Cursor) : Nat → Cursor
  | 0 => c
  | n + 1 => c.step.advance n

/-- The characters that satisfy a condition, and the place behind them. -/
def take (p : Char → Bool) (c : Cursor) : List Char × Cursor :=
  let run := c.rest.takeWhile p
  (run, c.advance run.length)

/-- The place behind the characters that satisfy a condition. -/
def skip (p : Char → Bool) (c : Cursor) : Cursor :=
  (c.take p).2

/-- The end of a line, as it is kept in a text, and the place behind it. -/
def lineBreak? (c : Cursor) : Option (Char × Cursor) :=
  match c.next? with
  | some d =>
    if d = '\n' || d = '\x85' then some ('\n', c.step)
    else if isBreak d then some (d, c.step)
    else none
  | none => none

/-- Whether three characters and a gap come next. -/
def hasMark (c : Cursor) (mark : Char) : Bool :=
  match c.rest with
  | a :: b :: d :: rest => a = mark && b = mark && d = mark && isGap rest.head?
  | _ => false

/-- Whether a mark between documents comes next. -/
def atMark (c : Cursor) : Bool :=
  c.hasMark '-' || c.hasMark '.'

/-- The place behind a comment, if one comes next. -/
def skipComment (c : Cursor) : Cursor :=
  if c.next? = some '#' then c.skip (!isBreak ·) else c

/-- The place behind the rest of a line that holds nothing but blanks and a comment. -/
def skipLine? (c : Cursor) : Option Cursor :=
  let c := (c.skip (· == ' ')).skipComment
  match c.next? with
  | none => some c
  | some _ => c.lineBreak?.map (·.2)

theorem index_step (c : Cursor) (h : c.rest ≠ []) : c.step.index = c.index + 1 := by
  unfold step
  split
  · contradiction
  · split <;> rfl

theorem rest_step (c : Cursor) : c.step.rest = c.rest.drop 1 := by
  unfold step
  split
  · simp_all
  · rename_i h
    rw [h]
    split <;> rfl

/-- A cursor moves on by as many characters as it is told to, as far as there are some. -/
theorem index_advance (c : Cursor) (n : Nat) (h : n ≤ c.rest.length) :
    (c.advance n).index = c.index + n := by
  induction n generalizing c with
  | zero => rfl
  | succ n ih =>
    have hne : c.rest ≠ [] := by
      intro e
      rw [e] at h
      exact absurd h (by simp)
    rw [advance, ih, index_step c hne]
    · omega
    · rw [rest_step, List.length_drop]
      omega

theorem rest_advance (c : Cursor) (n : Nat) : (c.advance n).rest = c.rest.drop n := by
  induction n generalizing c with
  | zero => rfl
  | succ n ih => rw [advance, ih, rest_step, List.drop_drop, Nat.add_comm]

/-- Behind the characters that satisfy a condition comes one that does not. -/
theorem rest_skip (p : Char → Bool) (c : Cursor) : (c.skip p).rest = c.rest.dropWhile p := by
  rw [skip, take, rest_advance]
  induction c.rest with
  | nil => rfl
  | cons d rest ih =>
    rw [List.takeWhile_cons, List.dropWhile_cons]
    split
    · simpa using ih
    · rfl

end Cursor

end Cutover.Yaml
