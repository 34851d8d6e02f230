import Cutover.Json.Reader
import Cutover.Settings.Path
import Cutover.Text.Letter
import Cutover.Yaml.Value

/-!
# Files of settings

What a file of settings holds.  The suffix of its name tells its form; the file is a text in which a line
may end in any of the three usual ways.  Main statement: `File.endLines_clean`, no carriage return is left
once the ends of lines are one character each.
-/

namespace Cutover.Settings

open Text

/-- What is found at a path. -/
inductive Entry where
  | nothing
  | directory
  | file (bytes : List Nat)
  deriving DecidableEq, Repr

/-- A directory in which something is at a path, perhaps in directories of its own. -/
structure Folder where
  path : String
  entry : Entry
  deriving DecidableEq, Repr

namespace Folder

/-- Whether a path leads to a directory that is always there: the folder itself or one around it. -/
def isOuter (path : String) : Bool :=
  (Path.steps path).all (· == ['.', '.'])

/-- What is found at a path. -/
def find (folder : Folder) (path : String) : Entry :=
  if folder.entry ≠ .nothing && Path.plain path = Path.plain folder.path then folder.entry
  else if isOuter path then .directory
  else if folder.entry ≠ .nothing && (Path.steps path).isPrefixOf (Path.steps folder.path) then
    .directory
  else .nothing

/-- Whether something is at a path as it is written: a slash behind it asks for a directory, and an empty
path leads nowhere. -/
def has (folder : Folder) (path : String) : Bool :=
  match folder.find path with
  | .nothing => false
  | .directory => path ≠ ""
  | .file _ => path.toList.getLast? ≠ some '/'

end Folder

/-- The forms of files of settings. -/
inductive Form where
  | yaml
  | json
  deriving DecidableEq, Repr

/-- The form that a suffix tells. -/
def Form.ofSuffix? (suffix : String) : Option Form :=
  let suffix := lower suffix
  if suffix = ".yaml" || suffix = ".yml" then some .yaml
  else if suffix = ".json" then some .json
  else none

/-- Why nothing can be read from a file. -/
inductive FileFault where
  | absent (path : String)
  | directory (path : String)
  | unsupported (suffix : String)
  /-- The bytes are no text. -/
  | bytes
  | json
  | yaml (fault : Yaml.Fault)
  deriving DecidableEq, Repr

/-- The wording of a fault. -/
def FileFault.message : FileFault → String
  | .absent path => "Configuration file not found: " ++ path
  | .directory path => "[Errno 21] Is a directory: " ++ Quoted.quoted path
  | .unsupported suffix => "Unsupported configuration file format: " ++ suffix
  | .bytes => "The file is no UTF-8 text"
  | .json => "The file is no JSON value"
  | .yaml .malformed => "The file is no YAML document"
  | .yaml fault => fault.message

/-- What a file holds. -/
structure Content where
  value : Json
  /-- Whether it is a mapping with a key that is no text. -/
  hasForeignKey : Bool
  deriving DecidableEq, Repr

namespace File

/-- A text in which every end of a line is one character. -/
def endLines : List Char → List Char
  | [] => []
  | '\r' :: '\n' :: cs => '\n' :: endLines cs
  | '\r' :: cs => '\n' :: endLines cs
  | c :: cs => c :: endLines cs

/-- Read a text in a form. -/
def readText (form : Form) (text : String) : Except FileFault Content :=
  match form with
  | .json =>
    match Json.read? text with
    | some value => .ok ⟨value, false⟩
    | none => .error .json
  | .yaml =>
    match Yaml.read? text with
    | .ok value => .ok ⟨value.toJson, value.hasForeignKey⟩
    | .error fault => .error (.yaml fault)

/-- Read what is found at a path. -/
def read (path : String) (entry : Entry) : Except FileFault Content :=
  match entry, Form.ofSuffix? (Path.suffix path) with
  | .nothing, _ => .error (.absent (Path.plain path))
  | .directory, _ => .error (.directory (Path.plain path))
  | .file _, none => .error (.unsupported (Path.suffix path))
  | .file bytes, some form =>
    match Utf8.decode? bytes with
    | none => .error .bytes
    | some cs => readText form (String.ofList (endLines cs))

/-- No carriage return is left once the ends of lines are one character each. -/
theorem endLines_clean (cs : List Char) : '\r' ∉ endLines cs := by
  fun_induction endLines cs with
  | case1 => simp
  | case2 cs ih => simpa using ih
  | case3 cs h ih => simpa using ih
  | case4 c cs h₁ h₂ ih =>
    simpa [ih] using fun e => h₂ e.symm

end File

end Cutover.Settings
