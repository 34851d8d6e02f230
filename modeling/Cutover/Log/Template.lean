import Cutover.Json.Display
import Cutover.Number.Decimal

/-!
# Message templates

A message is made of a template and its arguments.  A conversion in the template begins with a percent
sign and says how the next argument is written: as it is shown in messages, as an integer in a base of
eight, ten or sixteen, as a decimal, or as a single character; flags, a least width and a precision may
stand before its letter.  A name in brackets picks an argument by name.

A template is read into pieces first.  A template that breaks off gives the pieces before the fault, so
that a fault of an earlier argument is found before it.
-/

namespace Cutover.Log

open Text

/-- Why a message cannot be made. -/
inductive TemplateFault where
  /-- The template ends inside a conversion. -/
  | incomplete
  /-- The template ends inside the name of an argument. -/
  | incompleteName
  /-- A conversion has a letter, at some place in the template, that means nothing. -/
  | unknownLetter (letter : Char) (index : Nat)
  | notNumber
  | infinite
  | tooLarge
  | noCharacter
  /-- An argument is not of the kind that its conversion needs. -/
  | wrongKind
  | tooFew
  | tooMany
  /-- An argument is picked by name, and the arguments have none. -/
  | unnamed
  /-- No argument has the name. -/
  | unknownName (name : String)
  deriving DecidableEq, Repr

/-- The wording of a fault. -/
def TemplateFault.message : TemplateFault → String
  | .incomplete => "incomplete format"
  | .incompleteName => "incomplete format key"
  | .unknownLetter letter index =>
    let shown := if 31 ≤ letter.toNat && letter.toNat ≤ 126 then letter else '?'
    "unsupported format character '" ++ String.ofList [shown] ++ "' (0x" ++
      String.ofList (Nat.toDigits 16 letter.toNat) ++ ") at index " ++ Numeral.natText index
  | .notNumber => "cannot convert float NaN to integer"
  | .infinite => "cannot convert float infinity to integer"
  | .tooLarge => "int too large to convert to float"
  | .noCharacter => "%c arg not in range(0x110000)"
  | .wrongKind => "an argument of another kind is required"
  | .tooFew => "not enough arguments for format string"
  | .tooMany => "not all arguments converted during string formatting"
  | .unnamed => "format requires a mapping"
  | .unknownName name => name

/-- A width or precision: a number, or the next argument. -/
inductive Amount where
  | fixed (n : Nat)
  | argument
  deriving DecidableEq, Repr

/-- The flags of a conversion. -/
structure Flags where
  left : Bool := false
  plus : Bool := false
  blank : Bool := false
  zero : Bool := false
  alternate : Bool := false
  deriving DecidableEq, Repr

/-- How an argument is written. -/
structure Conversion where
  flags : Flags
  width : Option Amount
  precision : Option Amount
  letter : Char
  /-- The place of the letter in the template. -/
  index : Nat
  deriving DecidableEq, Repr

/-- A piece of a template. -/
inductive Piece where
  | literal (c : Char)
  /-- The argument with a name becomes the next and only one. -/
  | pick (name : String)
  /-- A name without end. -/
  | pickBroken
  | convert (conversion : Conversion)
  | broken
  deriving DecidableEq, Repr

namespace Template

/-- Read the flags of a conversion. -/
def readFlags (flags : Flags) : List Char → Flags × List Char
  | '-' :: rest => readFlags { flags with left := true } rest
  | '+' :: rest => readFlags { flags with plus := true } rest
  | ' ' :: rest => readFlags { flags with blank := true } rest
  | '#' :: rest => readFlags { flags with alternate := true } rest
  | '0' :: rest => readFlags { flags with zero := true } rest
  | cs => (flags, cs)

/-- Read a width or precision, if there is one. -/
def readAmount : List Char → Option Amount × List Char
  | '*' :: rest => (some .argument, rest)
  | cs =>
    let (ds, rest) := cs.span Numeral.isDigit
    (if ds.isEmpty then none else some (.fixed (Numeral.read ds)), rest)

/-- Read a precision, which follows a point; a point alone means zero. -/
def readPrecision : List Char → Option Amount × List Char
  | '.' :: rest =>
    let (amount, rest) := readAmount rest
    (some (amount.getD (.fixed 0)), rest)
  | cs => (none, cs)

/-- Skip a letter that names a size. -/
def skipSize : List Char → List Char
  | c :: rest => if c = 'h' || c = 'l' || c = 'L' then rest else c :: rest
  | [] => []

/-- Read a name up to the bracket that closes it; brackets inside it are in pairs. -/
def readName (depth : Nat) (name : List Char) : List Char → Option (String × List Char)
  | [] => none
  | c :: rest =>
    if c = ')' then
      match depth with
      | 0 => some (String.ofList name.reverse, rest)
      | depth + 1 => readName depth (c :: name) rest
    else readName (if c = '(' then depth + 1 else depth) (c :: name) rest

/-- Read a conversion behind its percent sign and name; `length` is the length of the whole template. -/
def readConversion (length : Nat) (cs : List Char) : Option (Conversion × List Char) :=
  let (flags, cs) := readFlags {} cs
  let (width, cs) := readAmount cs
  let (precision, cs) := readPrecision cs
  match skipSize cs with
  | [] => none
  | letter :: rest =>
    some ({ flags, width, precision, letter, index := length - rest.length - 1 }, rest)

/-- Read the pieces of a template.  Every piece takes a character, so the length of the rest bounds
their number. -/
def readPieces (length : Nat) : Nat → List Char → List Piece
  | 0, _ => []
  | _, [] => []
  | fuel + 1, '%' :: cs =>
    match cs with
    | '(' :: rest =>
      match readName 0 [] rest with
      | none => [.pickBroken]
      | some (name, rest) => .pick name :: conversion fuel rest
    | _ => conversion fuel cs
  | fuel + 1, c :: cs => .literal c :: readPieces length fuel cs
where
  conversion (fuel : Nat) (cs : List Char) : List Piece :=
    match readConversion length cs with
    | none => [.broken]
    | some (conversion, rest) => .convert conversion :: readPieces length fuel rest

/-- The pieces of a template. -/
def pieces (template : String) : List Piece :=
  readPieces template.length template.length template.toList

end Template

/-- The arguments of a message. -/
structure Arguments where
  /-- The arguments that have not been written yet. -/
  left : List Json
  /-- The value that arguments are picked from by name; all of it need not be written. -/
  named : Option Json := none
  deriving BEq, Repr

namespace Arguments

/-- A single value: if it has parts, they can be picked by name. -/
def single (value : Json) : Arguments :=
  match value with
  | .obj _ => ⟨[value], some value⟩
  | .arr _ => ⟨[value], some value⟩
  | _ => ⟨[value], none⟩

/-- The arguments of a log record: a single object that is not empty is itself the argument. -/
def ofList : List Json → Arguments
  | [.obj (member :: members)] => single (.obj (member :: members))
  | values => ⟨values, none⟩

/-- The next argument. -/
def next (arguments : Arguments) : Except TemplateFault (Json × Arguments) :=
  match arguments.left with
  | [] => .error .tooFew
  | value :: rest => .ok (value, { arguments with left := rest })

/-- The arguments after one was picked by name. -/
def pick (arguments : Arguments) (name : String) : Except TemplateFault Arguments :=
  match arguments.named with
  | none => .error .unnamed
  | some (.obj members) =>
    match Fields.get? members name with
    | some value => .ok { arguments with left := [value] }
    | none => .error (.unknownName name)
  | some _ => .error .wrongKind

end Arguments

namespace Template

/-- A conversion whose amounts are known. -/
structure Layout where
  flags : Flags
  width : Nat
  precision : Option Nat
  deriving DecidableEq, Repr

/-- The integer that an argument gives for a width or precision. -/
def amountOf : Json → Except TemplateFault Int
  | .int n => .ok n
  | .bool b => .ok (if b then 1 else 0)
  | _ => .error .wrongKind

/-- The layout of a conversion; widths and precisions may be taken from the arguments.  A width below
zero puts the blanks behind. -/
def layout (conversion : Conversion) (arguments : Arguments) :
    Except TemplateFault (Layout × Arguments) := do
  let (flags, width, arguments) ←
    match conversion.width with
    | none => .ok (conversion.flags, 0, arguments)
    | some (.fixed n) => .ok (conversion.flags, n, arguments)
    | some .argument => do
      let (value, arguments) ← arguments.next
      let n ← amountOf value
      .ok ({ conversion.flags with left := conversion.flags.left || n < 0 }, n.natAbs, arguments)
  let (precision, arguments) ←
    match conversion.precision with
    | none => .ok (none, arguments)
    | some (.fixed n) => .ok (some n, arguments)
    | some .argument => do
      let (value, arguments) ← arguments.next
      let n ← amountOf value
      .ok (some n.toNat, arguments)
  .ok (⟨flags, width, precision⟩, arguments)

/-- Blanks that bring a text to the width of its layout. -/
def padText (layout : Layout) (cs : List Char) : List Char :=
  let gap := List.replicate (layout.width - cs.length) ' '
  if layout.flags.left then cs ++ gap else gap ++ cs

/-- The sign in front of a number. -/
def signText (flags : Flags) (negative : Bool) : List Char :=
  if negative then ['-'] else if flags.plus then ['+'] else if flags.blank then [' '] else []

/-- A number with its sign and the mark of its base, brought to the width of its layout by zeros after
them or by blanks around all. -/
def padNumber (layout : Layout) (negative : Bool) (mark body : List Char) : List Char :=
  let front := signText layout.flags negative ++ mark
  if layout.flags.zero && !layout.flags.left then
    front ++ List.replicate (layout.width - front.length - body.length) '0' ++ body
  else padText layout (front ++ body)

/-- The digits of a number, with zeros in front up to the precision. -/
def withLeast (layout : Layout) (ds : List Char) : List Char :=
  List.replicate (layout.precision.getD 0 - ds.length) '0' ++ ds

/-- The integer that an argument is cut to. -/
def wholeOf : Json → Except TemplateFault Int
  | .int n => .ok n
  | .bool b => .ok (if b then 1 else 0)
  | .float .nan => .error .notNumber
  | .float (.infinite _) => .error .infinite
  | .float x => .ok x.split.1
  | _ => .error .wrongKind

/-- The integer that an argument is. -/
def integerOf : Json → Except TemplateFault Int
  | .int n => .ok n
  | .bool b => .ok (if b then 1 else 0)
  | _ => .error .wrongKind

/-- The number that an argument is. -/
def numberOf : Json → Except TemplateFault Binary64
  | .float x => .ok x
  | .bool b => .ok (.ofInt (if b then 1 else 0))
  | .int n =>
    match Binary64.ofInt n with
    | .infinite _ => .error .tooLarge
    | x => .ok x
  | _ => .error .wrongKind

/-- The character that an argument is or has the number of. -/
def characterOf : Json → Except TemplateFault Char
  | .str s =>
    match s.toList with
    | [c] => .ok c
    | _ => .error .wrongKind
  | value => do
    let n ← integerOf value
    if 0 ≤ n && n < 0x110000 then .ok (Char.ofNat n.toNat) else .error .noCharacter

/-- A text cut to the precision of its layout and brought to its width. -/
def layText (layout : Layout) (s : String) : List Char :=
  padText layout (match layout.precision with
    | some n => s.toList.take n
    | none => s.toList)

/-- A value as in a message, with every character outside ASCII by its number. -/
def asciiText (value : Json) : String :=
  String.ofList <| value.quotedText.toList.flatMap fun c =>
    let n := c.toNat
    if n < 128 then [c]
    else if n < 0x100 then '\\' :: 'x' :: Numeral.writeHex 2 n
    else if n < 0x10000 then '\\' :: 'u' :: Numeral.writeHex 4 n
    else '\\' :: 'U' :: Numeral.writeHex 8 n

/-- A decimal with its sign in front. -/
def layDecimal (layout : Layout) (form : Binary64.Notation) (x : Binary64) : List Char :=
  let cs := x.writeDecimal form (layout.precision.getD 6) layout.flags.alternate
  match cs with
  | '-' :: body => padNumber layout true [] body
  | _ => padNumber layout false [] cs

/-- ASCII letters in upper case. -/
def upperLetters (cs : List Char) : List Char :=
  cs.map Char.toUpper

/-- An integer in a base with the mark of the base, if it is asked for. -/
def layInteger (layout : Layout) (base : Nat) (mark : List Char) (n : Int) : List Char :=
  padNumber layout (n < 0) (if layout.flags.alternate then mark else [])
    (withLeast layout (Nat.toDigits base n.natAbs))

/-- The text of an argument under a conversion. -/
def writeValue (conversion : Conversion) (layout : Layout) (value : Json) :
    Except TemplateFault (List Char) :=
  match conversion.letter with
  | 's' => .ok (layText layout value.displayText)
  | 'r' => .ok (layText layout value.quotedText)
  | 'a' => .ok (layText layout (asciiText value))
  | 'd' => (wholeOf value).map (layInteger layout 10 [])
  | 'i' => (wholeOf value).map (layInteger layout 10 [])
  | 'u' => (wholeOf value).map (layInteger layout 10 [])
  | 'o' => (integerOf value).map (layInteger layout 8 ['0', 'o'])
  | 'x' => (integerOf value).map (layInteger layout 16 ['0', 'x'])
  | 'X' => (integerOf value).map fun n => upperLetters (layInteger layout 16 ['0', 'x'] n)
  | 'f' => (numberOf value).map (layDecimal layout .positional)
  | 'F' => (numberOf value).map fun x => upperLetters (layDecimal layout .positional x)
  | 'e' => (numberOf value).map (layDecimal layout .scientific)
  | 'E' => (numberOf value).map fun x => upperLetters (layDecimal layout .scientific x)
  | 'g' => (numberOf value).map (layDecimal layout .general)
  | 'G' => (numberOf value).map fun x => upperLetters (layDecimal layout .general x)
  | 'c' => (characterOf value).map fun c => padText layout [c]
  | letter => .error (.unknownLetter letter conversion.index)

/-- The text of the pieces of a template. -/
def writePieces : List Piece → Arguments → Except TemplateFault (List Char)
  | [], arguments =>
    if arguments.left.isEmpty || arguments.named.isSome then .ok [] else .error .tooMany
  | .literal c :: rest, arguments => (writePieces rest arguments).map (c :: ·)
  | .pick name :: rest, arguments => do writePieces rest (← arguments.pick name)
  | .pickBroken :: _, arguments =>
    if arguments.named.isSome then .error .incompleteName else .error .unnamed
  | .broken :: _, _ => .error .incomplete
  | .convert conversion :: rest, arguments => do
    let (layout, arguments) ← layout conversion arguments
    if conversion.letter = '%' then (writePieces rest arguments).map ('%' :: ·)
    else
      let (value, arguments) ← arguments.next
      let text ← writeValue conversion layout value
      (writePieces rest arguments).map (text ++ ·)

/-- The message of a template with its arguments. -/
def fill (template : String) (arguments : Arguments) : Except TemplateFault String :=
  (writePieces (pieces template) arguments).map String.ofList

end Template

end Cutover.Log
