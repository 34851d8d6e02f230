import Cutover.Yaml.Scalar
import Cutover.Yaml.Token

/-!
# Documents as trees

The tree of texts, lists and tables that the pieces of a document describe.  A part that stands elsewhere
is put in, and the tables that a table takes over are merged into it.  Main statement:
`Node.takeOver_sound`, only tables can be taken over.
-/

namespace Cutover.Yaml

/-- A part of a document. -/
inductive Node where
  | text (kind : Kind) (content : String)
  | list (kind : Kind) (items : List Node)
  /-- A table; it is unsound if it takes over something that is no table. -/
  | table (kind : Kind) (isSound : Bool) (entries : List (Node × Node))
  /-- A part inside itself. -/
  | cycle
  deriving Repr, Inhabited

namespace Node

/-- What an empty place stands for. -/
def empty : Node := .text .null ""

/-- Whether a part is the sign for tables that are taken over. -/
def isMerge : Node → Bool
  | .text kind _ => kind == .merge
  | .list kind _ => kind == .merge
  | .table kind _ _ => kind == .merge
  | .cycle => false

/-- The entries that a table has from another part; nothing if that is no table. -/
def entries? : Node → Option (List (Node × Node))
  | .table _ true entries => some entries
  | .cycle => some []
  | _ => none

/-- The entries that a table takes over from a table or from a list of them.  Those of the first member
of a list come last and so prevail. -/
def takeOver? : Node → Option (List (Node × Node))
  | .list _ items => (items.mapM entries?).map fun parts => parts.reverse.flatten
  | node => node.entries?

/-- A table of entries, in which those that are taken over come first. -/
def ofEntries (kind : Kind) (entries : List (Node × Node)) : Node :=
  let own := entries.filter (!·.1.isMerge)
  match (entries.filter (·.1.isMerge)).mapM (·.2.takeOver?) with
  | some merged => .table kind true (merged.flatten ++ own)
  | none => .table kind false own

/-- Only tables can be taken over. -/
theorem takeOver_sound (kind : Kind) (content : String) : (Node.text kind content).takeOver? = none := rfl

/-! ### From pieces to trees -/

/-- The pieces that are left, and the parts that have a name.  A part that is not yet complete is
marked by nothing. -/
structure Supply where
  tokens : List Token
  names : List (String × Option Node) := []

/-- The kinds of parts that may stand at a place. -/
inductive Position where
  /-- Between brackets. -/
  | flow
  | block
  /-- In a table, where the members of a list need no indentation of their own. -/
  | entry
  deriving DecidableEq, Repr

/-- What is said about a part in front of it. -/
structure Properties where
  anchor : Option String := none
  tag : Option String := none

/-- A tag in full. -/
def fullTag? (handles : List (String × String)) : Option String → String → Option String
  | none, suffix => some suffix
  | some handle, suffix => (handles.lookup handle).map (· ++ suffix)

/-- What is said about a part in front of it, and the pieces behind that. -/
def properties? (handles : List (String × String)) : List Token → Option (Properties × List Token)
  | .anchor name :: .tag handle suffix :: rest =>
    (fullTag? handles handle suffix).map fun tag => (⟨some name, some tag⟩, rest)
  | .tag handle suffix :: .anchor name :: rest =>
    (fullTag? handles handle suffix).map fun tag => (⟨some name, some tag⟩, rest)
  | .anchor name :: rest => some (⟨some name, none⟩, rest)
  | .tag handle suffix :: rest =>
    (fullTag? handles handle suffix).map fun tag => (⟨none, some tag⟩, rest)
  | rest => some ({}, rest)

/-- The kind of a text. -/
def Properties.textKind (p : Properties) (content : String) (isPlain : Bool) : Kind :=
  match p.tag with
  | some tag => if tag = "!" then .ofPlain content else .ofTag tag
  | none => if isPlain then .ofPlain content else .text

/-- The kind of a list or a table, where `usual` is the one that needs not be told. -/
def Properties.kind (p : Properties) (usual : Kind) : Kind :=
  match p.tag with
  | some tag => if tag = "!" then usual else .ofTag tag
  | none => usual

/-- Whether a part that follows a key, a colon or the sign of a member is left out. -/
def isLeftOut : List Token → Bool
  | .item :: _ => true
  | .key :: _ => true
  | .value :: _ => true
  | .blockEnd :: _ => true
  | _ => false

/-- Whether a part between brackets is left out. -/
def isLeftOutFlow (closing : Token) : List Token → Bool
  | .value :: _ => true
  | .comma :: _ => true
  | token :: _ => token == closing
  | [] => false

/-- Note the part with a name. -/
def Supply.name (s : Supply) (anchor : Option String) (node : Option Node) : Supply :=
  match anchor with
  | some name => { s with names := (name, node) :: s.names }
  | none => s

mutual

/-- The part that comes next at a place. -/
def node? (handles : List (String × String)) (place : Position) : Nat → Supply → Option (Node × Supply)
  | 0, _ => none
  | fuel + 1, s =>
    match s.tokens with
    | .alias name :: rest =>
      (s.names.lookup name).map fun node => (node.getD .cycle, { s with tokens := rest })
    | _ => do
      let (p, tokens) ← properties? handles s.tokens
      if p.anchor.any fun name => (s.names.lookup name).isSome then none
      else
        let s := Supply.name { s with tokens } p.anchor none
        let (node, s) ← content? handles place fuel p s
        some (node, s.name p.anchor node)

/-- The part that comes next, behind what is said about it. -/
def content? (handles : List (String × String)) (place : Position) :
    Nat → Properties → Supply → Option (Node × Supply)
  | 0, _, _ => none
  | fuel + 1, p, s =>
    match s.tokens with
    | .text content isPlain :: rest =>
      some (.text (p.textKind content isPlain) content, { s with tokens := rest })
    | .flowList :: rest =>
      (flowItems? handles fuel true { s with tokens := rest }).map fun (items, s) =>
        (.list (p.kind .list) items, s)
    | .flowTable :: rest =>
      (flowEntries? handles fuel true { s with tokens := rest }).map fun (entries, s) =>
        (ofEntries (p.kind .table) entries, s)
    | token :: rest =>
      if place = .entry && token = .item then
        (looseItems? handles fuel s).map fun (items, s) => (.list (p.kind .list) items, s)
      else if place ≠ .flow && token = .blockList then
        (blockItems? handles fuel { s with tokens := rest }).map fun (items, s) =>
          (.list (p.kind .list) items, s)
      else if place ≠ .flow && token = .blockTable then
        (blockEntries? handles fuel { s with tokens := rest }).map fun (entries, s) =>
          (ofEntries (p.kind .table) entries, s)
      else if p.anchor.isSome || p.tag.isSome then some (.text (p.textKind "" true) "", s)
      else none
    | [] => if p.anchor.isSome || p.tag.isSome then some (.text (p.textKind "" true) "", s) else none

/-- The members of a list up to its end. -/
def blockItems? (handles : List (String × String)) : Nat → Supply → Option (List Node × Supply)
  | 0, _ => none
  | fuel + 1, s =>
    match s.tokens with
    | .item :: .item :: rest =>
      (blockItems? handles fuel { s with tokens := .item :: rest }).map fun (items, s) =>
        (empty :: items, s)
    | .item :: .blockEnd :: rest => some ([empty], { s with tokens := rest })
    | .item :: rest => do
      let (node, s) ← node? handles .block fuel { s with tokens := rest }
      let (items, s) ← blockItems? handles fuel s
      some (node :: items, s)
    | .blockEnd :: rest => some ([], { s with tokens := rest })
    | _ => none

/-- The members of a list in a table up to the next entry. -/
def looseItems? (handles : List (String × String)) : Nat → Supply → Option (List Node × Supply)
  | 0, _ => none
  | fuel + 1, s =>
    match s.tokens with
    | .item :: rest => do
      let (node, s) ←
        if isLeftOut rest then some (empty, { s with tokens := rest })
        else node? handles .block fuel { s with tokens := rest }
      let (items, s) ← looseItems? handles fuel s
      some (node :: items, s)
    | _ => some ([], s)

/-- The entries of a table up to its end. -/
def blockEntries? (handles : List (String × String)) :
    Nat → Supply → Option (List (Node × Node) × Supply)
  | 0, _ => none
  | fuel + 1, s =>
    match s.tokens with
    | .key :: rest => do
      let (key, s) ← entryPart? handles fuel { s with tokens := rest }
      let (value, s) ←
        match s.tokens with
        | .value :: rest => entryPart? handles fuel { s with tokens := rest }
        | _ => some (empty, s)
      let (entries, s) ← blockEntries? handles fuel s
      some ((key, value) :: entries, s)
    | .blockEnd :: rest => some ([], { s with tokens := rest })
    | _ => none

/-- A key or a value of a table, which may be left out. -/
def entryPart? (handles : List (String × String)) : Nat → Supply → Option (Node × Supply)
  | 0, _ => none
  | fuel + 1, s =>
    match s.tokens with
    | .item :: _ => node? handles .entry fuel s
    | tokens => if isLeftOut tokens then some (empty, s) else node? handles .entry fuel s

/-- The members of a list in brackets up to the closing one. -/
def flowItems? (handles : List (String × String)) : Nat → Bool → Supply → Option (List Node × Supply)
  | 0, _, _ => none
  | fuel + 1, isFirst, s =>
    let member (s : Supply) : Option (List Node × Supply) :=
      match s.tokens with
      | .flowListEnd :: rest => some ([], { s with tokens := rest })
      | .key :: rest => do
        let (entry, s) ← flowEntry? handles .flowListEnd fuel { s with tokens := rest }
        let (items, s) ← flowItems? handles fuel false s
        some (ofEntries .table [entry] :: items, s)
      | _ => do
        let (node, s) ← node? handles .flow fuel s
        let (items, s) ← flowItems? handles fuel false s
        some (node :: items, s)
    match s.tokens with
    | .flowListEnd :: rest => some ([], { s with tokens := rest })
    | .comma :: rest => if isFirst then none else member { s with tokens := rest }
    | _ => if isFirst then member s else none

/-- The entries of a table in brackets up to the closing one. -/
def flowEntries? (handles : List (String × String)) :
    Nat → Bool → Supply → Option (List (Node × Node) × Supply)
  | 0, _, _ => none
  | fuel + 1, isFirst, s =>
    let member (s : Supply) : Option (List (Node × Node) × Supply) :=
      match s.tokens with
      | .flowTableEnd :: rest => some ([], { s with tokens := rest })
      | .key :: rest => do
        let (entry, s) ← flowEntry? handles .flowTableEnd fuel { s with tokens := rest }
        let (entries, s) ← flowEntries? handles fuel false s
        some (entry :: entries, s)
      | _ => do
        let (key, s) ← node? handles .flow fuel s
        let (entries, s) ← flowEntries? handles fuel false s
        some ((key, empty) :: entries, s)
    match s.tokens with
    | .flowTableEnd :: rest => some ([], { s with tokens := rest })
    | .comma :: rest => if isFirst then none else member { s with tokens := rest }
    | _ => if isFirst then member s else none

/-- A key between brackets and its value, either of which may be left out. -/
def flowEntry? (handles : List (String × String)) (closing : Token) :
    Nat → Supply → Option ((Node × Node) × Supply)
  | 0, _ => none
  | fuel + 1, s => do
    let (key, s) ←
      if isLeftOutFlow closing s.tokens then some (empty, s) else node? handles .flow fuel s
    match s.tokens with
    | .value :: rest =>
      let s := { s with tokens := rest }
      match rest with
      | .value :: _ => none
      | _ =>
        let (value, s) ←
          if isLeftOutFlow closing rest then some (empty, s) else node? handles .flow fuel s
        some ((key, value), s)
    | _ => some ((key, empty), s)

end

/-! ### The whole document -/

/-- The handles that need not be introduced. -/
def usualHandles : List (String × String) :=
  [("!", "!"), ("!!", "tag:yaml.org,2002:")]

/-- The handles of the directives in front of a document, and the pieces behind them. -/
def directives? : List Token → Bool → List (String × String) → Option (List (String × String) × List Token)
  | .version major :: rest, hasVersion, handles =>
    if hasVersion || major ≠ 1 then none else directives? rest true handles
  | .shorthand handle beginning :: rest, hasVersion, handles =>
    if (handles.lookup handle).isSome then none
    else directives? rest hasVersion ((handle, beginning) :: handles)
  | .directive :: rest, hasVersion, handles => directives? rest hasVersion handles
  | rest, _, handles => some (handles, rest)

/-- Whether a document begins with directives or with its mark. -/
def isExplicit : List Token → Bool
  | .version _ :: _ => true
  | .shorthand _ _ :: _ => true
  | .directive :: _ => true
  | .documentStart :: _ => true
  | _ => false

/-- Whether the content of a document is left out. -/
def isEmptyDocument (tokens : List Token) : Bool :=
  tokens.isEmpty || isExplicit tokens || tokens.head? == some .documentEnd

/-- The content of a document from its pieces; an empty one stands for nothing. -/
def ofTokens? (tokens : List Token) : Option Node := do
  let fuel := 3 * tokens.length + 3
  let (node, s) ←
    if tokens.isEmpty then some (empty, ⟨[], []⟩)
    else if isExplicit tokens then do
      let (handles, tokens) ← directives? tokens false []
      match tokens with
      | .documentStart :: rest =>
        if isEmptyDocument rest then some (empty, ⟨rest, []⟩)
        else node? (handles ++ usualHandles) .block fuel ⟨rest, []⟩
      | _ => none
    else node? usualHandles .block fuel ⟨tokens, []⟩
  if (s.tokens.dropWhile (· == .documentEnd)).isEmpty then some node else none

end Node

end Cutover.Yaml
