import Cutover.Json.Basic
import Cutover.Number.Shortest

/-!
# Data values as text

The text of a value in printable ASCII: a blank after every comma and colon, every other character
outside printable ASCII by its number, and one beyond the first plane by two.  There is a form on one
line and a form with one entry per line.
-/

namespace Cutover.Json

/-- A code unit of sixteen bits by its number. -/
def writeUnit (n : Nat) : List Char :=
  '\\' :: 'u' :: Text.Numeral.writeHex 4 n

/-- The form of a character inside double quotes. -/
def escape (c : Char) : List Char :=
  let n := c.toNat
  if c = '"' then ['\\', '"']
  else if c = '\\' then ['\\', '\\']
  else if c = '\n' then ['\\', 'n']
  else if c = '\r' then ['\\', 'r']
  else if c = '\t' then ['\\', 't']
  else if n = 8 then ['\\', 'b']
  else if n = 12 then ['\\', 'f']
  else if 32 ≤ n && n < 127 then [c]
  else if n < 0x10000 then writeUnit n
  else writeUnit (0xD800 + (n - 0x10000) / 0x400) ++ writeUnit (0xDC00 + (n - 0x10000) % 0x400)

/-- A text in double quotes. -/
def writeText (s : String) : List Char :=
  '"' :: s.toList.flatMap escape ++ ['"']

/-- The numbers without digits keep their words. -/
def numberNames : Binary64.Names := ⟨"Infinity", "NaN"⟩

/-- The text of a value without parts. -/
def writeLeaf : Json → List Char
  | .null => "null".toList
  | .bool true => "true".toList
  | .bool false => "false".toList
  | .int n => Text.Numeral.writeInt n
  | .float x => Binary64.write numberNames x
  | .str s => writeText s
  | .arr _ => "[]".toList
  | .obj _ => "\x7b\x7d".toList

mutual

/-- The text of a value on one line. -/
def write : Json → List Char
  | .arr (item :: items) => '[' :: write item ++ writeItems items ++ [']']
  | .obj (member :: members) =>
    '\x7b' :: writeText member.1 ++ [':', ' '] ++ write member.2 ++ writeMembers members ++ ['\x7d']
  | .null => writeLeaf .null
  | .bool b => writeLeaf (.bool b)
  | .int n => writeLeaf (.int n)
  | .float x => writeLeaf (.float x)
  | .str s => writeLeaf (.str s)
  | .arr [] => writeLeaf (.arr [])
  | .obj [] => writeLeaf (.obj [])

/-- The items of a list after the first. -/
def writeItems : List Json → List Char
  | [] => []
  | item :: items => [',', ' '] ++ write item ++ writeItems items

/-- The members of an object after the first. -/
def writeMembers : List (String × Json) → List Char
  | [] => []
  | member :: members =>
    [',', ' '] ++ writeText member.1 ++ [':', ' '] ++ write member.2 ++ writeMembers members

end

/-- The text of a value on one line, as a string. -/
def text (value : Json) : String :=
  String.ofList (write value)

/-- A line break and the blanks that bring an entry to its depth. -/
def newline (depth : Nat) : List Char :=
  '\n' :: List.replicate (2 * depth) ' '

mutual

/-- The text of a value with one entry per line, two blanks deeper at each level. -/
def writeIndented (depth : Nat) : Json → List Char
  | .arr (item :: items) =>
    '[' :: newline (depth + 1) ++ writeIndented (depth + 1) item ++
      writeIndentedItems (depth + 1) items ++ newline depth ++ [']']
  | .obj (member :: members) =>
    '\x7b' :: newline (depth + 1) ++ writeText member.1 ++ [':', ' '] ++
      writeIndented (depth + 1) member.2 ++ writeIndentedMembers (depth + 1) members ++
      newline depth ++ ['\x7d']
  | .null => writeLeaf .null
  | .bool b => writeLeaf (.bool b)
  | .int n => writeLeaf (.int n)
  | .float x => writeLeaf (.float x)
  | .str s => writeLeaf (.str s)
  | .arr [] => writeLeaf (.arr [])
  | .obj [] => writeLeaf (.obj [])

/-- The items of a list after the first, one per line. -/
def writeIndentedItems (depth : Nat) : List Json → List Char
  | [] => []
  | item :: items =>
    ',' :: newline depth ++ writeIndented depth item ++ writeIndentedItems depth items

/-- The members of an object after the first, one per line. -/
def writeIndentedMembers (depth : Nat) : List (String × Json) → List Char
  | [] => []
  | member :: members =>
    ',' :: newline depth ++ writeText member.1 ++ [':', ' '] ++ writeIndented depth member.2 ++
      writeIndentedMembers depth members

end

/-- The text of a value with one entry per line, as a string. -/
def indentedText (value : Json) : String :=
  String.ofList (writeIndented 0 value)

end Cutover.Json
