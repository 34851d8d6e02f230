import Cutover.Text.Numeral
import Cutover.Text.Utf8
import Cutover.Yaml.Cursor

/-!
# Pieces of a document

The pieces that a document is made of, and the forms of those that are names: marks of repeated parts,
tags and directives.
-/

namespace Cutover.Yaml

/-- A piece of a document. -/
inductive Token where
  /-- The version of the form that is followed. -/
  | version (major : Nat)
  /-- A handle and the beginning of the tags that it stands for. -/
  | shorthand (handle beginning : String)
  /-- A directive without a meaning. -/
  | directive
  | documentStart
  | documentEnd
  | blockList
  | blockTable
  /-- The end of a list or table that is told by its indentation. -/
  | blockEnd
  | flowList
  | flowListEnd
  | flowTable
  | flowTableEnd
  /-- The sign in front of a member of a list. -/
  | item
  | comma
  | key
  | value
  /-- A part that stands elsewhere. -/
  | alias (name : String)
  /-- The name of the part that follows. -/
  | anchor (name : String)
  /-- The kind of the part that follows: a handle and what comes behind it. -/
  | tag (handle : Option String) (suffix : String)
  | text (content : String) (isPlain : Bool)
  deriving DecidableEq, Repr

/-- Whether a character may be part of a name. -/
def isNameChar (c : Char) : Bool :=
  c.isAlphanum || c = '-' || c = '_'

/-- Whether nothing, a blank or the end of a line is next. -/
def isSeparate : Option Char → Bool
  | none => true
  | some c => c = ' ' || isBreak c

/-- A name behind its sign, and the place behind it. -/
def readName? (c : Cursor) : Option (String × Cursor) :=
  let (name, c) := c.step.take isNameChar
  let isOver := isGap c.next? ||
    c.next?.any fun d => ['?', ':', ',', ']', '\x7d', '%', '@', '\x60'].contains d
  if name.isEmpty || !isOver then none else some (String.ofList name, c)

/-! ### Tags -/

/-- Whether a character may be part of a tag. -/
def isTagChar (c : Char) : Bool :=
  c.isAlphanum || "-;/?:@&=+$,_.!~*'()[]".toList.contains c

/-- Bytes that are written as a percent sign and two digits. -/
def escapedBytes : Nat → Cursor → Option (List Nat × Cursor)
  | 0, c => some ([], c)
  | fuel + 1, c =>
    if c.next? = some '%' then do
      let digits := c.step.rest.take 2
      let byte ← Text.Numeral.readHex? digits
      if digits.length = 2 then
        let (more, c) ← escapedBytes fuel (c.advance 3)
        some (byte :: more, c)
      else none
    else some ([], c)

/-- The characters of a tag. -/
def tagChars : Nat → Cursor → Option (List Char × Cursor)
  | 0, c => some ([], c)
  | fuel + 1, c =>
    match c.next? with
    | none => some ([], c)
    | some d =>
      if d = '%' then do
        let (bytes, c) ← escapedBytes c.rest.length c
        let cs ← Text.Utf8.decode? bytes
        let (more, c) ← tagChars fuel c
        some (cs ++ more, c)
      else if isTagChar d then (tagChars fuel c.step).map fun (more, c) => (d :: more, c)
      else some ([], c)

/-- The part of a tag behind its handle, and the place behind it. -/
def readSuffix? (c : Cursor) : Option (String × Cursor) :=
  match tagChars c.rest.length c with
  | some (cs, c) => if cs.isEmpty then none else some (String.ofList cs, c)
  | none => none

/-- A handle: an exclamation mark, or a name between two of them. -/
def readHandle? (c : Cursor) : Option (String × Cursor) :=
  if c.next? ≠ some '!' then none
  else if c.second? = some ' ' then some ("!", c.step)
  else
    let (name, c) := c.step.take isNameChar
    if c.next? = some '!' then some (String.ofList ('!' :: name ++ ['!']), c.step) else none

/-- A tag, and the place behind it. -/
def readTag? (c : Cursor) : Option (Token × Cursor) := do
  let (handle, suffix, c) ←
    if c.second? = some '<' then do
      let (suffix, c) ← readSuffix? (c.advance 2)
      if c.next? = some '>' then some (none, suffix, c.step) else none
    else if isGap c.second? then some (none, "!", c.step)
    else if (c.step.rest.takeWhile fun d => !isSeparate (some d)).contains '!' then do
      let (handle, c) ← readHandle? c
      let (suffix, c) ← readSuffix? c
      some (some handle, suffix, c)
    else do
      let (suffix, c) ← readSuffix? c.step
      some (some "!", suffix, c)
  if isSeparate c.next? then some (.tag handle suffix, c) else none

/-! ### Directives -/

/-- A number, and the place behind it. -/
def readNumber? (c : Cursor) : Option (Nat × Cursor) :=
  let (digits, c) := c.take Text.Numeral.isDigit
  if digits.isEmpty then none else some (Text.Numeral.read digits, c)

/-- Two numbers with a point between them. -/
def readVersion? (c : Cursor) : Option (Token × Cursor) := do
  let (major, c) ← readNumber? (c.skip (· == ' '))
  if c.next? ≠ some '.' then none
  else
    let (_, c) ← readNumber? c.step
    if isSeparate c.next? then some (.version major, c) else none

/-- A handle and a beginning of tags. -/
def readShorthand? (c : Cursor) : Option (Token × Cursor) := do
  let (handle, c) ← readHandle? (c.skip (· == ' '))
  if c.next? ≠ some ' ' then none
  else
    let (beginning, c) ← readSuffix? (c.skip (· == ' '))
    if isSeparate c.next? then some (.shorthand handle beginning, c) else none

/-- A directive, and the place behind its line. -/
def readDirective? (c : Cursor) : Option (Token × Cursor) := do
  let (name, c) := c.step.take isNameChar
  if name.isEmpty || !isSeparate c.next? then none
  else
    let (token, c) ←
      if name = "YAML".toList then readVersion? c
      else if name = "TAG".toList then readShorthand? c
      else some (.directive, c.skip (!isBreak ·))
    let c ← c.skipLine?
    some (token, c)

end Cutover.Yaml
