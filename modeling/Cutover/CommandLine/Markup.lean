import Cutover.Text.Blank
import Cutover.Text.Letter
import Cutover.Text.Numeral
import Cutover.Text.Split

/-!
# Marked up text

Text for the terminal in which names in square brackets switch styles on and off.  A bracket stands for
itself behind a backslash, and where no name follows it.  Styles are not shown, so that a text is shown
without its marks; a mark that switches off what was not switched on is a fault.
-/

namespace Cutover.CommandLine.Markup

open Text

/-- Whether a mark may begin with a character. -/
def isMarkStart (c : Char) : Bool :=
  ('a' ≤ c && c ≤ 'z') || c = '#' || c = '/' || c = '@'

/-- The inside of a mark and what follows it, behind an opening bracket. -/
def readMark? : List Char → Option (List Char × List Char)
  | [] => none
  | c :: cs =>
    if isMarkStart c then
      match cs.span fun d => d ≠ ']' && d ≠ '[' with
      | (inside, ']' :: rest) => some (c :: inside, rest)
      | _ => none
    else none

/-- A mark behind any backslashes: their number, the inside of the mark and what follows it. -/
def readMarkBehind? (cs : List Char) : Option (Nat × List Char × List Char) :=
  let (backslashes, rest) := cs.span (· == '\\')
  match rest with
  | '[' :: rest => (readMark? rest).map fun (inside, rest) => (backslashes.length, inside, rest)
  | _ => none

/-- A text in which every mark stands for itself. -/
def escapeChars (fuel : Nat) (cs : List Char) : List Char :=
  match fuel, cs with
  | 0, _ => cs
  | _, [] => []
  | fuel + 1, c :: rest =>
    match readMarkBehind? cs with
    | some (count, inside, after) =>
      List.replicate (2 * count + 1) '\\' ++ '[' :: inside ++ ']' :: escapeChars fuel after
    | none => c :: escapeChars fuel rest

/-- A text in which every mark stands for itself.  A single backslash at the end is doubled, so that it
does not change a mark behind it. -/
def escape (s : String) : String :=
  let cs := escapeChars s.length s.toList
  match cs.reverse with
  | '\\' :: '\\' :: _ => String.ofList cs
  | '\\' :: _ => String.ofList (cs ++ ['\\'])
  | _ => String.ofList cs

/-- A mark that switches off what was not switched on. -/
structure Fault where
  /-- The mark, or nothing for the mark that switches off whatever came last. -/
  mark : Option String
  position : Nat
  deriving DecidableEq, Repr

/-- The wording of a fault. -/
def Fault.message (fault : Fault) : String :=
  match fault.mark with
  | some mark =>
    "closing tag '" ++ mark ++ "' at position " ++ Numeral.natText fault.position ++
      " doesn't match any open tag"
  | none =>
    "closing tag '[/]' at position " ++ Numeral.natText fault.position ++ " has nothing to close"

/-- The name of a style, which may be written in any case and with blanks around it. -/
def styleName (cs : List Char) : String :=
  lower (trimText (String.ofList cs))

/-- A text between two marks, without the backslashes in front of brackets. -/
def plain : List Char → List Char
  | '\\' :: '[' :: rest => '[' :: plain rest
  | c :: rest => c :: plain rest
  | [] => []

/-- The styles that are on after a mark. -/
def switch (position : Nat) (inside : List Char) (styles : List String) :
    Except Fault (List String) :=
  let name := inside.takeWhile (· ≠ '=')
  match name with
  | '/' :: name =>
    if trim name = [] then
      match styles with
      | [] => .error ⟨none, position⟩
      | _ :: styles => .ok styles
    else
      let style := styleName name
      if styles.contains style then .ok (styles.erase style)
      else .error ⟨some (String.ofList ('[' :: inside ++ [']'])), position⟩
  | _ => .ok (styleName name :: styles)

/-- Show a text: `position` counts the characters read, `styles` are those that are on, and `pending` is
the text since the last mark, last character first. -/
def showChars (fuel position : Nat) (styles : List String) (pending : List Char) (cs : List Char) :
    Except Fault (List Char) :=
  match fuel, cs with
  | 0, _ => .ok (plain (pending.reverse ++ cs))
  | _, [] => .ok (plain pending.reverse)
  | fuel + 1, c :: rest =>
    match readMarkBehind? cs with
    | none => showChars fuel (position + 1) styles (c :: pending) rest
    | some (count, inside, after) =>
      let shown := plain pending.reverse ++ List.replicate (count / 2) '\\'
      let next := position + count + inside.length + 2
      if count % 2 = 1 then
        (showChars fuel next styles [] after).map fun more =>
          shown ++ ('[' :: inside ++ [']']) ++ more
      else do
        let styles ← switch (position + count) inside styles
        let more ← showChars fuel next styles [] after
        .ok (shown ++ more)

/-- Whether a control character is never shown. -/
def isDropped (c : Char) : Bool :=
  c.toNat = 7 || c.toNat = 8 || c.toNat = 11 || c.toNat = 12 || c.toNat = 13

/-- The text that marked up text shows. -/
def show? (s : String) : Except Fault (List Char) :=
  (showChars s.length 0 [] [] s.toList).map fun cs => cs.filter (!isDropped ·)

end Cutover.CommandLine.Markup
