import Cutover.Json.Basic
import Cutover.Number.Shortest
import Cutover.Text.Quoted

/-!
# Data values in messages

The text by which a message names a value: words with a capital for nothing, yes and no, texts in
quotes inside lists and objects, and a text by itself without quotes.
-/

namespace Cutover.Json

open Text

/-- The words for the numbers without digits. -/
def displayNames : Binary64.Names := ⟨"inf", "nan"⟩

/-- The text of a value without parts. -/
def displayLeaf : Json → List Char
  | .null => "None".toList
  | .bool true => "True".toList
  | .bool false => "False".toList
  | .int n => Numeral.writeInt n
  | .float x => Binary64.write displayNames x
  | .str s => Quoted.write s.toList
  | .arr _ => "[]".toList
  | .obj _ => "\x7b\x7d".toList

mutual

/-- The text of a value with its texts in quotes. -/
def displayQuoted : Json → List Char
  | .arr (item :: items) => '[' :: displayQuoted item ++ displayItems items ++ [']']
  | .obj (member :: members) =>
    '\x7b' :: Quoted.write member.1.toList ++ [':', ' '] ++ displayQuoted member.2 ++
      displayMembers members ++ ['\x7d']
  | .null => displayLeaf .null
  | .bool b => displayLeaf (.bool b)
  | .int n => displayLeaf (.int n)
  | .float x => displayLeaf (.float x)
  | .str s => displayLeaf (.str s)
  | .arr [] => displayLeaf (.arr [])
  | .obj [] => displayLeaf (.obj [])

/-- The items of a list after the first. -/
def displayItems : List Json → List Char
  | [] => []
  | item :: items => [',', ' '] ++ displayQuoted item ++ displayItems items

/-- The members of an object after the first. -/
def displayMembers : List (String × Json) → List Char
  | [] => []
  | member :: members =>
    [',', ' '] ++ Quoted.write member.1.toList ++ [':', ' '] ++ displayQuoted member.2 ++
      displayMembers members

end

/-- The text of a value inside another one. -/
def quotedText (value : Json) : String :=
  String.ofList (displayQuoted value)

/-- The text of a value: a text itself, any other value as inside another one. -/
def displayText : Json → String
  | .str s => s
  | value => quotedText value

@[simp] theorem displayText_str (s : String) : displayText (.str s) = s := rfl

end Cutover.Json
