import Cutover.Yaml.Text
import Cutover.Yaml.Token

/-!
# From lines to pieces

The pieces of a document in their order.  Indentation becomes pieces of its own: a deeper column opens a
list or a table, and a column further left closes those that began right of it.  What stands in front of
a colon turns out to be a key only when the colon is read, so its place is remembered until then.
Main statement: `Layout.unwind_indents`, no list or table that is open after a return to a column began
right of that column.
-/

namespace Cutover.Yaml

/-- A place where a key may have begun. -/
structure KeyCandidate where
  /-- The count of brackets around it. -/
  level : Nat
  /-- The count of pieces in front of it. -/
  position : Nat
  /-- Whether nothing but a key can stand there. -/
  isRequired : Bool
  index : Nat
  line : Nat
  column : Nat
  deriving Repr

/-- The pieces read so far and what decides about the next one. -/
structure Layout where
  cursor : Cursor
  /-- The pieces, the last one first. -/
  tokens : List Token := []
  /-- The columns of the open lists and tables, the innermost first. -/
  indents : List Nat := []
  /-- The count of open brackets. -/
  level : Nat := 0
  candidates : List KeyCandidate := []
  /-- Whether a key may begin here. -/
  keyAllowed : Bool := true

namespace Layout

/-- The most characters between the beginning of a key and its colon. -/
def keyLimit : Nat := 1024

/-- The column of the innermost open list or table. -/
def indent (l : Layout) : Int :=
  match l.indents with
  | [] => -1
  | column :: _ => column

/-- Add a piece, and go on at a place. -/
def push (l : Layout) (token : Token) (cursor : Cursor) : Layout :=
  { l with tokens := token :: l.tokens, cursor }

/-- Close the lists and tables that began right of a column. -/
def unwind (l : Layout) (column : Int) : Layout :=
  if l.level = 0 then
    let closed := l.indents.takeWhile fun (n : Nat) => column < n
    { l with
      tokens := closed.map (fun _ => .blockEnd) ++ l.tokens
      indents := l.indents.dropWhile fun (n : Nat) => column < n }
  else l

/-- Open a list or a table at the column of the cursor, unless one is open there. -/
def openBlock (l : Layout) (token : Token) : Layout :=
  if l.indent < l.cursor.column then
    { l with tokens := token :: l.tokens, indents := l.cursor.column :: l.indents }
  else l

/-- The key that may have begun inside the brackets that are open. -/
def candidate? (l : Layout) : Option KeyCandidate :=
  l.candidates.find? (·.level = l.level)

/-- Forget the key that may have begun, if it did not have to be one. -/
def forget? (l : Layout) : Option Layout :=
  if l.candidate?.any (·.isRequired) then none
  else some { l with candidates := l.candidates.filter (·.level ≠ l.level) }

/-- Remember that a key may begin here. -/
def remember? (l : Layout) : Option Layout :=
  if l.keyAllowed then do
    let isRequired := l.level = 0 && l.indent = l.cursor.column
    let l ← l.forget?
    let key : KeyCandidate :=
      ⟨l.level, l.tokens.length, isRequired, l.cursor.index, l.cursor.line, l.cursor.column⟩
    some { l with candidates := key :: l.candidates }
  else some l

/-- Whether a key has become too long: it is over at the end of its line. -/
def isStale (l : Layout) (key : KeyCandidate) : Bool :=
  key.line ≠ l.cursor.line || keyLimit < l.cursor.index - key.index

/-- Forget the keys that have become too long. -/
def refresh? (l : Layout) : Option Layout :=
  if l.candidates.any fun key => l.isStale key && key.isRequired then none
  else some { l with candidates := l.candidates.filter (!l.isStale ·) }

/-- The place of the next piece, and whether a line has ended before it. -/
def gapEnd : Nat → Cursor → Cursor × Bool
  | 0, c => (c, false)
  | fuel + 1, c =>
    let c := (c.skip (· == ' ')).skipComment
    match c.lineBreak? with
    | none => (c, false)
    | some (_, c) => ((gapEnd fuel c).1, true)

/-- Go on to the next piece. -/
def settle? (l : Layout) : Option Layout := do
  let start := if l.cursor.index = 0 && l.cursor.next? = some '\uFEFF' then l.cursor.step else l.cursor
  let (cursor, crossed) := gapEnd (start.rest.length + 1) start
  let l := { l with cursor, keyAllowed := l.keyAllowed || (crossed && l.level = 0) }
  let l ← l.refresh?
  some (l.unwind l.cursor.column)

/-! ### Single pieces -/

/-- A mark between documents. -/
def readMark? (l : Layout) (token : Token) : Option Layout := do
  let l ← (l.unwind (-1)).forget?
  some { l.push token (l.cursor.advance 3) with keyAllowed := false }

/-- A directive. -/
def directive? (l : Layout) : Option Layout := do
  let l ← (l.unwind (-1)).forget?
  let (token, c) ← readDirective? l.cursor
  some { l.push token c with keyAllowed := false }

/-- An opening bracket. -/
def openFlow? (l : Layout) (token : Token) : Option Layout := do
  let l ← l.remember?
  some { l.push token l.cursor.step with level := l.level + 1, keyAllowed := true }

/-- A closing bracket. -/
def closeFlow? (l : Layout) (token : Token) : Option Layout := do
  let l ← l.forget?
  if l.level = 0 then none
  else some { l.push token l.cursor.step with level := l.level - 1, keyAllowed := false }

/-- A comma. -/
def readComma? (l : Layout) : Option Layout := do
  let l ← l.forget?
  some { l.push .comma l.cursor.step with keyAllowed := true }

/-- A sign that may open a list or a table, where it may stand. -/
def readSign? (l : Layout) (opening token : Token) (keyAllowed : Bool) : Option Layout :=
  if l.level = 0 && !l.keyAllowed then none
  else do
    let l ← (if l.level = 0 then l.openBlock opening else l).forget?
    some { l.push token l.cursor.step with keyAllowed }

/-- A colon.  If a key may have begun in front of it, that was one. -/
def readColon? (l : Layout) : Option Layout :=
  match l.candidate? with
  | none => l.readSign? .blockTable .value (l.level = 0)
  | some key =>
    let isDeeper := l.level = 0 && l.indent < key.column
    let count := l.tokens.length - key.position
    some { l with
      cursor := l.cursor.step
      tokens := .value :: l.tokens.take count ++
        (if isDeeper then [.key, .blockTable] else [.key]) ++ l.tokens.drop count
      indents := if isDeeper then key.column :: l.indents else l.indents
      candidates := l.candidates.filter (·.level ≠ l.level)
      keyAllowed := false }

/-- A piece that may begin a key, read by a function. -/
def readPart? (l : Layout) (read : Cursor → Option (Token × Cursor)) : Option Layout := do
  let l ← l.remember?
  let (token, c) ← read l.cursor
  some { l.push token c with keyAllowed := false }

/-- A block of lines. -/
def readBlock? (l : Layout) (isFolded : Bool) : Option Layout := do
  let l ← l.forget?
  let (content, c) ← blockText isFolded l.indent l.cursor.step
  some { l.push (.text (String.ofList content) false) c with keyAllowed := true }

/-- A plain text. -/
def readPlain? (l : Layout) : Option Layout := do
  let l ← l.remember?
  let (content, c, crossed) := plainText (l.level ≠ 0) (l.indent + 1) l.cursor
  some { l.push (.text (String.ofList content) true) c with keyAllowed := crossed }

/-- Whether a plain text may begin with a character in front of another one. -/
def beginsPlain (l : Layout) (c : Char) (after : Option Char) : Bool :=
  !(isGap (some c) || "-?:,[]\x7b\x7d#&*!|>'\"%@\x60".toList.contains c) ||
    (!isGap after && (c = '-' || (l.level = 0 && (c = '?' || c = ':'))))

/-- The piece at the cursor. -/
def readToken? (l : Layout) : Option Layout :=
  let c := l.cursor
  match c.next? with
  | none => none
  | some d =>
    let hasGap := isGap c.second?
    if c.column = 0 && d = '%' then l.directive?
    else if c.column = 0 && c.hasMark '-' then l.readMark? .documentStart
    else if c.column = 0 && c.hasMark '.' then l.readMark? .documentEnd
    else if d = '[' then l.openFlow? .flowList
    else if d = '\x7b' then l.openFlow? .flowTable
    else if d = ']' then l.closeFlow? .flowListEnd
    else if d = '\x7d' then l.closeFlow? .flowTableEnd
    else if d = ',' then l.readComma?
    else if d = '-' && hasGap then l.readSign? .blockList .item true
    else if d = '?' && (l.level ≠ 0 || hasGap) then l.readSign? .blockTable .key (l.level = 0)
    else if d = ':' && (l.level ≠ 0 || hasGap) then l.readColon?
    else if d = '*' then l.readPart? fun c => (readName? c).map fun (name, c) => (.alias name, c)
    else if d = '&' then l.readPart? fun c => (readName? c).map fun (name, c) => (.anchor name, c)
    else if d = '!' then l.readPart? readTag?
    else if l.level = 0 && (d = '|' || d = '>') then l.readBlock? (d = '>')
    else if d = '\'' || d = '"' then
      l.readPart? fun c => (quotedText c).map fun (cs, c) => (.text (String.ofList cs) false, c)
    else if l.beginsPlain d c.second? then l.readPlain?
    else none

/-- The pieces up to the end, in order. -/
def tokens? : Nat → Layout → Option (List Token)
  | 0, _ => none
  | fuel + 1, l => do
    let l ← l.settle?
    if l.cursor.rest.isEmpty then
      let l ← (l.unwind (-1)).forget?
      some l.tokens.reverse
    else
      let l ← l.readToken?
      tokens? fuel l

/-- After a return to a column, no list or table is open that began right of it.  The columns of the open
ones grow towards the innermost. -/
theorem unwind_indents (l : Layout) (column : Int) (hl : l.level = 0)
    (ordered : l.indents.Pairwise (· > ·)) : ∀ n ∈ (l.unwind column).indents, (n : Int) ≤ column := by
  simp only [unwind, hl, if_true]
  generalize l.indents = columns at ordered
  induction columns with
  | nil => simp
  | cons n columns ih =>
    intro m hm
    rw [List.dropWhile_cons] at hm
    split at hm
    · exact ih (List.pairwise_cons.1 ordered).2 m hm
    · rename_i h
      have hn : (n : Int) ≤ column := by simpa using h
      rcases List.mem_cons.1 hm with rfl | hm
      · exact hn
      · have := (List.pairwise_cons.1 ordered).1 m hm
        omega

end Layout

/-- The pieces of a document. -/
def tokens? (cs : List Char) : Option (List Token) :=
  Layout.tokens? (cs.length + 2) { cursor := { rest := cs } }

end Cutover.Yaml
