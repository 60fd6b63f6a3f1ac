import PackageLint.Yaml.Form
import PackageLint.Yaml.Token

/-!
# The nodes of a YAML document

The tokens of a text make a tree of scalars, lists and tables, each with the form it is meant to
have. An alias stands for the node with its anchor; inside of that node it stands for an empty
list.
-/

namespace PackageLint.Yaml

/-- A part of a document. -/
inductive Node
  /-- A text and what it is meant to be. -/
  | scalar (form : Form) (text : String)
  /-- A list of nodes. -/
  | list (form : Form) (items : List Node)
  /-- A table of nodes. -/
  | table (form : Form) (entries : List (Node × Node))
  deriving Repr

namespace Node

/-- The node where nothing is written. -/
def nothing : Node := scalar .null ""

/-- The tag of a node. -/
inductive NodeTag
  /-- The form is told by the text. -/
  | plain
  /-- The form is given. -/
  | form (form : Form)
  deriving DecidableEq, Repr

/-- What stands in front of a node. -/
structure Properties where
  /-- The name of the node. -/
  anchor : Option String := none
  /-- The tag of the node. -/
  tag : Option NodeTag := none

/-- The form of a text in front of which the properties stand. -/
def Properties.scalarForm (properties : Properties) (plain : Bool) (text : String) : Form :=
  match properties.tag with
  | some (.form form) => form
  | some .plain => .ofPlain text
  | none => if plain then .ofPlain text else .text

/-- The form of a collection in front of which the properties stand. -/
def Properties.formOr (properties : Properties) (usual : Form) : Form :=
  match properties.tag with
  | some (.form form) => form
  | _ => usual

/-- What is known in the middle of a document. -/
structure Progress where
  /-- The tokens that are left. -/
  tokens : List Token
  /-- The nodes that have a name. -/
  anchors : List (String × Node) := []

/-- What the handles of tags stand for. -/
abbrev Handles := List (String × String)

/-- The handles that need no directive. -/
def usualHandles : Handles := [("!", "!"), ("!!", Form.tagStart)]

/-- The tag that a handle and a text make. -/
def resolveTag (handles : Handles) (handle : Option String) (text : String) :
    Except Flaw NodeTag :=
  match handle with
  | none => .ok (if text = "!" then .plain else .form (.ofTag text))
  | some handle =>
    match handles.lookup handle with
    | some start => .ok (.form (.ofTag (start ++ text)))
    | none => .error .tag

/-- The properties in front of a node: an anchor, a tag, or both in any order. -/
def takeProperties (handles : Handles) (tokens : List Token) :
    Except Flaw (Properties × List Token) :=
  match tokens with
  | .anchor name :: .tag handle text :: rest | .tag handle text :: .anchor name :: rest =>
    (resolveTag handles handle text).map fun tag => ({ anchor := some name, tag := some tag }, rest)
  | .anchor name :: rest => .ok ({ anchor := some name }, rest)
  | .tag handle text :: rest =>
    (resolveTag handles handle text).map fun tag => ({ tag := some tag }, rest)
  | tokens => .ok ({}, tokens)

/-- Gives a name to a node that is being read; a name is given once only. -/
def Progress.open (progress : Progress) (anchor : Option String) : Except Flaw Progress :=
  match anchor with
  | none => .ok progress
  | some name =>
    if (progress.anchors.lookup name).isSome then .error .anchor
    -- Inside of the node its name stands for an empty list.
    else .ok { progress with anchors := (name, .list .list []) :: progress.anchors }

/-- Puts a node that was read under its name. -/
def Progress.close (progress : Progress) (anchor : Option String) (node : Node) : Progress :=
  match anchor with
  | none => progress
  | some name =>
    { progress with anchors := progress.anchors.map fun entry =>
        if entry.1 = name then (name, node) else entry }

/-- The next token is one of some tokens, or there is none. -/
def Progress.isAt (progress : Progress) (tokens : List Token) : Bool :=
  progress.tokens.head?.all tokens.contains

/-- The progress behind the next token. -/
def Progress.advance (progress : Progress) : Progress :=
  { progress with tokens := progress.tokens.drop 1 }

/-- How a node may be written. -/
inductive Place
  /-- Between brackets. -/
  | flow
  /-- On lines. -/
  | lines
  /-- On lines, as a list that is not indented too. -/
  | value
  deriving DecidableEq, Repr

mutual

/-- The node from here on. -/
def read (handles : Handles) (place : Place) :
    (fuel : Nat) → Progress → Except Flaw (Node × Progress)
  | 0, _ => .error .arrangement
  | fuel + 1, progress =>
    match progress.tokens with
    | .alias name :: _ =>
      match progress.anchors.lookup name with
      | some node => .ok (node, progress.advance)
      | none => .error .anchor
    | tokens => do
      let (properties, rest) ← takeProperties handles tokens
      let progress ← ({ progress with tokens := rest }).open properties.anchor
      let (node, progress) ← readBody handles place fuel properties progress
      return (node, progress.close properties.anchor node)

/-- The node behind its properties. -/
def readBody (handles : Handles) (place : Place) :
    (fuel : Nat) → Properties → Progress → Except Flaw (Node × Progress)
  | 0, _, _ => .error .arrangement
  | fuel + 1, properties, progress =>
    let asList (found : List Node × Progress) : Node × Progress :=
      (.list (properties.formOr .list) found.1, found.2)
    let asTable (found : List (Node × Node) × Progress) : Node × Progress :=
      (.table (properties.formOr .table) found.1, found.2)
    match place, progress.tokens with
    | .value, .item :: _ => (readItems handles true fuel progress).map asList
    | _, .scalar plain text :: _ =>
      .ok (.scalar (properties.scalarForm plain text) text, progress.advance)
    | _, .openBracket :: _ =>
      (readFlowItems handles true fuel progress.advance).map asList
    | _, .openBrace :: _ =>
      (readFlowEntries handles true fuel progress.advance).map asTable
    | .value, .listStart :: _ | .lines, .listStart :: _ =>
      (readItems handles false fuel progress.advance).map asList
    | .value, .tableStart :: _ | .lines, .tableStart :: _ =>
      (readEntries handles fuel progress.advance).map asTable
    | _, _ =>
      -- Properties with nothing behind them belong to an empty text.
      if properties.anchor.isSome || properties.tag.isSome then
        .ok (.scalar (properties.scalarForm true "") "", progress)
      else .error .arrangement

/-- The node from here on, nothing where one of the tokens `ends` follows. -/
def readUnless (handles : Handles) (place : Place) (ends : List Token) :
    (fuel : Nat) → Progress → Except Flaw (Node × Progress)
  | 0, _ => .error .arrangement
  | fuel + 1, progress =>
    if progress.tokens.head?.any ends.contains then .ok (nothing, progress)
    else read handles place fuel progress

/-- The items of a list of lines. A list that is not indented has no mark at its end. -/
def readItems (handles : Handles) (indentless : Bool) :
    (fuel : Nat) → Progress → Except Flaw (List Node × Progress)
  | 0, _ => .error .arrangement
  | fuel + 1, progress =>
    match progress.tokens with
    | .item :: _ => do
      let ends : List Token :=
        if indentless then [.item, .key, .value, .blockEnd] else [.item, .blockEnd]
      let (item, progress) ← readUnless handles .lines ends fuel progress.advance
      let (items, progress) ← readItems handles indentless fuel progress
      return (item :: items, progress)
    | .blockEnd :: _ => .ok ([], if indentless then progress else progress.advance)
    | _ => if indentless then .ok ([], progress) else .error .arrangement

/-- The entries of a table of lines. -/
def readEntries (handles : Handles) :
    (fuel : Nat) → Progress → Except Flaw (List (Node × Node) × Progress)
  | 0, _ => .error .arrangement
  | fuel + 1, progress =>
    let ends : List Token := [.key, .value, .blockEnd]
    match progress.tokens with
    | .key :: _ => do
      let (key, progress) ← readUnless handles .value ends fuel progress.advance
      let (value, progress) ← readValue handles .value ends fuel progress
      let (entries, progress) ← readEntries handles fuel progress
      return ((key, value) :: entries, progress)
    | .blockEnd :: _ => .ok ([], progress.advance)
    | _ => .error .arrangement

/-- The value behind its mark, nothing where there is no mark. -/
def readValue (handles : Handles) (place : Place) (ends : List Token) :
    (fuel : Nat) → Progress → Except Flaw (Node × Progress)
  | 0, _ => .error .arrangement
  | fuel + 1, progress =>
    match progress.tokens with
    | .value :: _ => readUnless handles place ends fuel progress.advance
    | _ => .ok (nothing, progress)

/-- The items of a list in brackets. An item with a mark for a key is a table with one entry. -/
def readFlowItems (handles : Handles) (isFirst : Bool) :
    (fuel : Nat) → Progress → Except Flaw (List Node × Progress)
  | 0, _ => .error .arrangement
  | fuel + 1, progress =>
    let ends : List Token := [.comma, .closeBracket]
    match isFirst, progress.tokens with
    | _, .closeBracket :: _ => .ok ([], progress.advance)
    | false, .comma :: .closeBracket :: _ => .ok ([], progress.advance.advance)
    | false, .comma :: _ => readFlowItem handles ends fuel progress.advance
    | true, _ => readFlowItem handles ends fuel progress
    | false, _ => .error .arrangement

/-- The items of a list in brackets, of which the first is here. -/
def readFlowItem (handles : Handles) (ends : List Token) :
    (fuel : Nat) → Progress → Except Flaw (List Node × Progress)
  | 0, _ => .error .arrangement
  | fuel + 1, progress => do
    let (item, progress) ←
      match progress.tokens with
      | .key :: _ => do
        let (key, progress) ← readUnless handles .flow (.value :: ends) fuel progress.advance
        let (value, progress) ← readValue handles .flow ends fuel progress
        pure (Node.table .table [(key, value)], progress)
      | _ => read handles .flow fuel progress
    let (items, progress) ← readFlowItems handles false fuel progress
    return (item :: items, progress)

/-- The entries of a table in braces. -/
def readFlowEntries (handles : Handles) (isFirst : Bool) :
    (fuel : Nat) → Progress → Except Flaw (List (Node × Node) × Progress)
  | 0, _ => .error .arrangement
  | fuel + 1, progress =>
    let ends : List Token := [.comma, .closeBrace]
    match isFirst, progress.tokens with
    | _, .closeBrace :: _ => .ok ([], progress.advance)
    | false, .comma :: .closeBrace :: _ => .ok ([], progress.advance.advance)
    | false, .comma :: _ => readFlowEntry handles ends fuel progress.advance
    | true, _ => readFlowEntry handles ends fuel progress
    | false, _ => .error .arrangement

/-- The entries of a table in braces, of which the first is here. A node without a mark for a key
has no value. -/
def readFlowEntry (handles : Handles) (ends : List Token) :
    (fuel : Nat) → Progress → Except Flaw (List (Node × Node) × Progress)
  | 0, _ => .error .arrangement
  | fuel + 1, progress => do
    let (entry, progress) ←
      match progress.tokens with
      | .key :: _ => do
        let (key, progress) ← readUnless handles .flow (.value :: ends) fuel progress.advance
        let (value, progress) ← readValue handles .flow ends fuel progress
        pure ((key, value), progress)
      | _ => do
        let (key, progress) ← read handles .flow fuel progress
        pure ((key, nothing), progress)
    let (entries, progress) ← readFlowEntries handles false fuel progress
    return (entry :: entries, progress)

end

/-! ### Documents -/

/-- What the directives before a document say. -/
structure Directives where
  /-- A version was given. -/
  hasVersion : Bool := false
  /-- The handles that were given. -/
  handles : Handles := []

/-- The directives from here on, and the tokens behind them. -/
def takeDirectives (found : Directives) : List Token → Except Flaw (Directives × List Token)
  | .version major :: rest =>
    if found.hasVersion || major != 1 then .error .directive
    else takeDirectives { found with hasVersion := true } rest
  | .tagHandle handle start :: rest =>
    if (found.handles.lookup handle).isSome then .error .directive
    else takeDirectives { found with handles := (handle, start) :: found.handles } rest
  | .otherDirective :: rest => takeDirectives found rest
  | tokens => .ok (found, tokens)

/-- A token that stands between documents. -/
def separates : Token → Bool
  | .version _ | .tagHandle _ _ | .otherDirective | .documentStart | .documentEnd => true
  | _ => false

/-- The node of a document, and the tokens behind it. A document that starts with a mark may hold
nothing. -/
def readDocument (tokens : List Token) : Except Flaw (Node × List Token) := do
  let fuel := 8 * tokens.length + 8
  let (directives, rest) ← takeDirectives {} tokens
  let handles := directives.handles ++ usualHandles
  match rest with
  | .documentStart :: rest =>
    if rest.head?.all separates then return (nothing, rest)
    let (node, progress) ← read handles .lines fuel { tokens := rest }
    return (node, progress.tokens)
  | rest =>
    -- Directives have to be followed by the mark of a document.
    if rest.length < tokens.length then throw .arrangement
    let (node, progress) ← read handles .lines fuel { tokens := rest }
    return (node, progress.tokens)

/-- The only document that tokens make; nothing where there are no tokens. -/
def ofTokens (tokens : List Token) : Except Flaw Node :=
  match tokens with
  | [] => .ok nothing
  | tokens => do
    let (node, rest) ← readDocument tokens
    if rest.all (· = .documentEnd) then return node else throw .secondDocument

end Node

end PackageLint.Yaml
