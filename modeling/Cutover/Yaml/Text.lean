import Cutover.Json.Reader
import Cutover.Text.Numeral
import Cutover.Yaml.Cursor

/-!
# Texts in a document

The four ways in which a text is written in a document: plain, in single or double quotes, and as a block
of lines.  Where a text goes over several lines, a single line end becomes a blank and further ones are
kept; a block that is not folded keeps all of them.
-/

namespace Cutover.Yaml

/-- The line ends that are kept of the first one and those behind it. -/
def foldBreaks (first : Char) (more : List Char) : List Char :=
  (if first ≠ '\n' then [first] else if more.isEmpty then [' '] else []) ++ more

/-! ### Plain texts -/

/-- Whether a plain text ends at a colon before some character. -/
def endsAtColon (flow : Bool) (after : Option Char) : Bool :=
  isGap after || (flow && after.any fun c => [',', '[', ']', '\x7b', '\x7d'].contains c)

/-- The part of a plain text up to the next gap. -/
def plainRun (flow : Bool) : List Char → List Char
  | [] => []
  | c :: rest =>
    if isSpace c || isBreak c then []
    else if c = ':' && endsAtColon flow rest.head? then []
    else if flow && [',', '?', '[', ']', '\x7b', '\x7d'].contains c then []
    else c :: plainRun flow rest

/-- What stands between two parts of a plain text. -/
structure Spacing where
  text : List Char
  cursor : Cursor
  /-- Whether a line has ended. -/
  crossed : Bool

/-- The line ends among blanks and line ends; nothing if a mark between documents follows one of them. -/
def breakRun : Nat → Cursor → Option (List Char) × Cursor
  | 0, c => (some [], c)
  | fuel + 1, c =>
    if c.next? = some ' ' then breakRun fuel c.step
    else
      match c.lineBreak? with
      | none => (some [], c)
      | some (first, c) =>
        if c.atMark then (none, c)
        else
          let (more, c) := breakRun fuel c
          (more.map (first :: ·), c)

/-- What stands behind a part of a plain text. -/
def plainSpacing (c : Cursor) : Spacing :=
  let (blanks, c) := c.take (· == ' ')
  match c.lineBreak? with
  | none => ⟨blanks, c, false⟩
  | some (first, c) =>
    if c.atMark then ⟨[], c, true⟩
    else
      match breakRun c.rest.length c with
      | (none, c) => ⟨[], c, true⟩
      | (some more, c) => ⟨foldBreaks first more, c, true⟩

/-- A plain text, the place behind it and whether a line has ended there.  It goes on in another line if
that line is indented by at least `indent`. -/
def plainParts (flow : Bool) (indent : Int) : Nat → Bool → Cursor → List Char × Cursor × Bool
  | 0, crossed, c => ([], c, crossed)
  | fuel + 1, crossed, c =>
    let run := if c.next? = some '#' then [] else plainRun flow c.rest
    if run.isEmpty then ([], c, crossed)
    else
      let spacing := plainSpacing (c.advance run.length)
      let c := spacing.cursor
      if spacing.text.isEmpty || c.next? = some '#' || (!flow && (c.column : Int) < indent) then
        (run, c, spacing.crossed)
      else
        match plainParts flow indent fuel spacing.crossed c with
        | ([], c, crossed) => (run, c, crossed)
        | (more, c, crossed) => (run ++ spacing.text ++ more, c, crossed)

/-- A plain text at a place. -/
def plainText (flow : Bool) (indent : Int) (c : Cursor) : List Char × Cursor × Bool :=
  plainParts flow indent c.rest.length false c

/-! ### Texts in quotes -/

/-- The line ends at the beginning of a line inside quotes, where no mark between documents may be. -/
def quotedBreaks : Nat → Cursor → Option (List Char × Cursor)
  | 0, c => some ([], c)
  | fuel + 1, c =>
    if c.atMark then none
    else
      let c := c.skip isSpace
      match c.lineBreak? with
      | none => some ([], c)
      | some (first, c) => (quotedBreaks fuel c).map fun (more, c) => (first :: more, c)

/-- The character that a letter behind a backslash stands for. -/
def escapedChar? : Char → Option Char
  | '0' => some '\x00'
  | 'a' => some '\x07'
  | 'b' => some '\x08'
  | 't' => some '\t'
  | '\t' => some '\t'
  | 'n' => some '\n'
  | 'v' => some '\x0B'
  | 'f' => some '\x0C'
  | 'r' => some '\r'
  | 'e' => some '\x1B'
  | ' ' => some ' '
  | '"' => some '"'
  | '\\' => some '\\'
  | '/' => some '/'
  | 'N' => some '\x85'
  | '_' => some '\xA0'
  | 'L' => some '\u2028'
  | 'P' => some '\u2029'
  | _ => none

/-- The count of digits behind a letter that gives a character by its number. -/
def escapedLength? : Char → Option Nat
  | 'x' => some 2
  | 'u' => some 4
  | 'U' => some 8
  | _ => none

/-- A character behind a backslash, and the place behind it. -/
def escaped? (c : Cursor) : Option (List Char × Cursor) := do
  let letter ← c.next?
  match escapedChar? letter, escapedLength? letter with
  | some d, _ => some ([d], c.step)
  | none, some length =>
    let digits := c.step.rest.take length
    let n ← Text.Numeral.readHex? digits
    if digits.length = length && n < 0x110000 then
      some ([Json.character n], c.step.advance length)
    else none
  | none, none => do
    let (_, c) ← c.lineBreak?
    quotedBreaks c.rest.length c

/-- A run of blanks and line ends inside quotes. -/
def quotedSpacing (c : Cursor) : Option (List Char × Cursor) :=
  let (blanks, c) := c.take isSpace
  match c.next?, c.lineBreak? with
  | none, _ => none
  | some _, none => some (blanks, c)
  | some _, some (first, c) =>
    (quotedBreaks c.rest.length c).map fun (more, c) => (foldBreaks first more, c)

/-- A text behind its opening quote, and the place behind the closing one. -/
def quotedParts (quote : Char) : Nat → Cursor → Option (List Char × Cursor)
  | 0, _ => none
  | fuel + 1, c =>
    match c.next? with
    | none => none
    | some d =>
      let goOn (part : List Char × Cursor) : Option (List Char × Cursor) :=
        (quotedParts quote fuel part.2).map fun (more, c) => (part.1 ++ more, c)
      if d = quote then
        if quote = '\'' && c.second? = some '\'' then goOn (['\''], c.advance 2)
        else some ([], c.step)
      else if quote = '"' && d = '\\' then (escaped? c.step).bind goOn
      else if isSpace d || isBreak d then (quotedSpacing c).bind goOn
      else goOn ([d], c.step)

/-- A text in quotes at a place. -/
def quotedText (c : Cursor) : Option (List Char × Cursor) := do
  let quote ← c.next?
  quotedParts quote (c.rest.length + 1) c.step

/-! ### Blocks of lines -/

/-- What becomes of the line ends behind the last line of a block. -/
inductive Chomping where
  | strip
  | clip
  | keep
  deriving DecidableEq, Repr

/-- A sign for what becomes of the last line ends. -/
def readChomping (c : Cursor) : Option (Chomping × Cursor) :=
  match c.next? with
  | some '+' => some (.keep, c.step)
  | some '-' => some (.strip, c.step)
  | _ => none

/-- A digit for the depth of a block; zero is none. -/
def readDepth (c : Cursor) : Option (Option Nat × Cursor) :=
  match c.next? with
  | some d =>
    if d = '0' then none
    else if Text.Numeral.isDigit d then some (some (Text.Numeral.value d), c.step)
    else some (none, c)
  | none => some (none, c)

/-- The signs in front of a block, in either order. -/
def blockHeader (c : Cursor) : Option (Chomping × Option Nat × Cursor) := do
  let (chomping, depth, c) ←
    match readChomping c with
    | some (chomping, c) => do
      let (depth, c) ← readDepth c
      some (chomping, depth, c)
    | none => do
      let (depth, c) ← readDepth c
      match readChomping c with
      | some (chomping, c) => some (chomping, depth, c)
      | none => some (.clip, depth, c)
  if c.next? = some ' ' || isLineEnd c.next? then
    let c ← c.skipLine?
    some (chomping, depth, c)
  else none

/-- The empty lines in front of a block whose depth is that of its deepest beginning. -/
def blockIndentation : Nat → Nat → Cursor → List Char × Nat × Cursor
  | 0, deepest, c => ([], deepest, c)
  | fuel + 1, deepest, c =>
    if c.next? = some ' ' then blockIndentation fuel (max deepest c.step.column) c.step
    else
      match c.lineBreak? with
      | none => ([], deepest, c)
      | some (first, c) =>
        let (more, deepest, c) := blockIndentation fuel deepest c
        (first :: more, deepest, c)

/-- The place behind the blanks up to a column. -/
def skipTo (indent : Nat) (c : Cursor) : Cursor :=
  c.advance ((c.rest.take (indent - c.column)).takeWhile (· == ' ')).length

/-- The empty lines between the lines of a block of a known depth. -/
def blockBreaks (indent : Nat) : Nat → Cursor → List Char × Cursor
  | 0, c => ([], c)
  | fuel + 1, c =>
    let c := skipTo indent c
    match c.lineBreak? with
    | none => ([], c)
    | some (first, c) =>
      let (more, c) := blockBreaks indent fuel c
      (first :: more, c)

/-- The lines of a block: their text, the end of the last of them and the empty lines behind it. -/
structure BlockLines where
  text : List Char
  lastBreak : List Char
  breaks : List Char
  cursor : Cursor

/-- Whether a line of a folded block is joined to the one before it: neither begins with a blank. -/
def isJoined (folded : Bool) (first : List Char) (leading following : Option Char) : Bool :=
  folded && first = ['\n'] && !leading.any isSpace && !following.any isSpace

/-- The lines of a block of a known depth. -/
def blockLines (folded : Bool) (indent : Nat) : Nat → List Char → Cursor → BlockLines
  | 0, breaks, c => ⟨[], [], breaks, c⟩
  | fuel + 1, breaks, c =>
    if c.column ≠ indent || c.rest.isEmpty then ⟨[], [], breaks, c⟩
    else
      let leading := c.next?
      let (line, c) := c.take (!isBreak ·)
      let (first, c) := match c.lineBreak? with
        | some (d, c) => ([d], c)
        | none => ([], c)
      let (more, c) := blockBreaks indent c.rest.length c
      if c.column ≠ indent || c.rest.isEmpty then ⟨breaks ++ line, first, more, c⟩
      else
        let joint :=
          if isJoined folded first leading c.next? then (if more.isEmpty then [' '] else [])
          else first
        let lines := blockLines folded indent fuel more c
        { lines with text := breaks ++ line ++ joint ++ lines.text }

/-- A block of lines behind its sign, in a part of the document with some indentation. -/
def blockText (folded : Bool) (indent : Int) (c : Cursor) : Option (List Char × Cursor) := do
  let (chomping, depth, c) ← blockHeader c
  let least := max 1 (indent + 1).toNat
  let (depth, breaks, c) :=
    match depth with
    | some depth =>
      let depth := least + depth - 1
      let (breaks, c) := blockBreaks depth c.rest.length c
      (depth, breaks, c)
    | none =>
      let (breaks, deepest, c) := blockIndentation c.rest.length 0 c
      (max least deepest, breaks, c)
  let lines := blockLines folded depth (c.rest.length + 1) breaks c
  some (lines.text ++
    (match chomping with
      | .strip => []
      | .clip => lines.lastBreak
      | .keep => lines.lastBreak ++ lines.breaks),
    lines.cursor)

end Cutover.Yaml
