import PackageLint.Text.Utf8
import PackageLint.Yaml.ScalarText

/-!
# The tokens of a YAML text

A text is cut into tokens from the left. Indentation opens and closes collections, and a colon may
turn the token before it into a key, for which a mark is put in front of that token. A key that is
not marked by a sign of its own has to be on one line and within 1024 characters of its colon.
-/

namespace PackageLint.Yaml

/-- A token. -/
inductive Token
  /-- The version of the language. -/
  | version (major : Nat)
  /-- A handle for tags and the text that it stands for. -/
  | tagHandle (handle start : String)
  /-- A directive without a meaning. -/
  | otherDirective
  /-- A document starts. -/
  | documentStart
  /-- A document ends. -/
  | documentEnd
  /-- A list of lines starts. -/
  | listStart
  /-- A table of lines starts. -/
  | tableStart
  /-- A list or a table of lines ends. -/
  | blockEnd
  /-- An opening bracket. -/
  | openBracket
  /-- A closing bracket. -/
  | closeBracket
  /-- An opening brace. -/
  | openBrace
  /-- A closing brace. -/
  | closeBrace
  /-- An item of a list of lines. -/
  | item
  /-- A comma. -/
  | comma
  /-- A key follows. -/
  | key
  /-- A value follows. -/
  | value
  /-- The name of a value given elsewhere. -/
  | alias (name : String)
  /-- A name for the value that follows. -/
  | anchor (name : String)
  /-- A tag: the handle, if it has one, and the text behind it. -/
  | tag (handle : Option String) (text : String)
  /-- A text, plain or not. -/
  | scalar (plain : Bool) (text : String)
  deriving DecidableEq, Repr

/-- A token that a colon may turn into a key. -/
structure PendingKey where
  /-- The number of brackets that are open around it. -/
  level : Nat
  /-- The number of tokens before it. -/
  position : Nat
  /-- No colon would be an error. -/
  required : Bool
  /-- Where it begins. -/
  cursor : Cursor

/-- What is known after some tokens. -/
structure TokenStream where
  /-- The place behind the last token. -/
  cursor : Cursor
  /-- The tokens. -/
  tokens : Array Token := #[]
  /-- The number of open brackets. -/
  level : Nat := 0
  /-- The column of the collection that is open. -/
  indent : Int := -1
  /-- The columns of the collections around it, the nearest first. -/
  outer : List Int := []
  /-- A key may begin here. -/
  allowsKey : Bool := true
  /-- The tokens that a colon may turn into keys, at most one for each level. -/
  pending : List PendingKey := []

namespace TokenStream

/-- One more token. -/
def push (s : TokenStream) (token : Token) : TokenStream :=
  { s with tokens := s.tokens.push token }

/-- One more token, with the place behind it. -/
def pushAt (s : TokenStream) (token : Token) (cursor : Cursor) : TokenStream :=
  { s with tokens := s.tokens.push token, cursor }

/-- A key may begin at the next token, or not. -/
def allowKey (s : TokenStream) (allowed : Bool) : TokenStream := { s with allowsKey := allowed }

/-- Outside of all brackets. -/
def inBlock (s : TokenStream) : Bool := s.level = 0

/-- Closes the collections that stand to the right of a column. -/
def unwindFrom (column : Int) : (outer : List Int) → TokenStream → TokenStream
  | [], s => s
  | around :: rest, s =>
    if column < s.indent then
      unwindFrom column rest { s.push .blockEnd with indent := around, outer := rest }
    else s

/-- Closes the collections to the right of a column, unless brackets are open. -/
def unwind (s : TokenStream) (column : Int) : TokenStream :=
  if s.inBlock then unwindFrom column s.outer s else s

/-- Opens a collection at a column to the right of the open one; its mark goes to a position among
the tokens. -/
def openAt (s : TokenStream) (column : Nat) (position : Nat) (mark : Token) : TokenStream :=
  if s.indent < column then
    { s with
      tokens := s.tokens.insertIdxIfInBounds position mark
      indent := column
      outer := s.indent :: s.outer }
  else s

/-- Opens a collection at the column of the cursor. -/
def openHere (s : TokenStream) (mark : Token) : TokenStream :=
  s.openAt s.cursor.column s.tokens.size mark

/-- The token that a colon may turn into a key at the present level. -/
def pendingHere (s : TokenStream) : Option PendingKey := s.pending.find? (·.level = s.level)

/-- Gives up the key at the present level. -/
def dropPending (s : TokenStream) : Except Flaw TokenStream :=
  if s.pendingHere.any (·.required) then .error .key
  else .ok { s with pending := s.pending.filter (·.level ≠ s.level) }

/-- A key is too old when its line has ended or its beginning lies too far back. -/
def isStale (cursor : Cursor) (key : PendingKey) : Bool :=
  key.cursor.line ≠ cursor.line || 1024 < cursor.index - key.cursor.index

/-- Gives up the keys that are too old. -/
def dropStale (s : TokenStream) : Except Flaw TokenStream :=
  if s.pending.any fun key => isStale s.cursor key && key.required then .error .key
  else .ok { s with pending := s.pending.filter (!isStale s.cursor ·) }

/-- The next token may turn out to be a key. -/
def savePending (s : TokenStream) : Except Flaw TokenStream :=
  if s.allowsKey then
    s.dropPending.map fun s =>
      let key : PendingKey := {
        level := s.level
        position := s.tokens.size
        -- At the column of the open collection nothing but a key can stand.
        required := s.inBlock && s.indent = s.cursor.column
        cursor := s.cursor }
      { s with pending := key :: s.pending }
  else .ok s

/-- The place of the next token. A key may begin after the end of a line outside of brackets. -/
def skipToToken : (fuel : Nat) → TokenStream → TokenStream
  | 0, s => s
  | fuel + 1, s =>
    let cursor := s.cursor.skipBlanks
    let cursor := if cursor.isAt '#' then cursor.skipRun (!isBreak ·) else cursor
    match cursor.head with
    | some c =>
      if isBreak c then
        skipToToken fuel { s with cursor := cursor.next, allowsKey := s.allowsKey || s.inBlock }
      else { s with cursor }
    | none => { s with cursor }

/-! ### Directives and names -/

/-- A character of a name. -/
def isNameChar (c : Char) : Bool := c.isAlphanum || c = '-' || c = '_'

/-- A character of a tag. -/
def isTagChar (c : Char) : Bool := c.isAlphanum || isOneOf "-;/?:@&=+$,_.!~*'()[]%" c

/-- The bytes of the escapes from here on, and their number. -/
def tagEscapes : List Char → Except Flaw (List UInt8)
  | '%' :: a :: b :: rest =>
    match Json.hexNumber? [a, b] with
    | some code => (tagEscapes rest).map (UInt8.ofNat code :: ·)
    | none => .error .name
  | '%' :: _ => .error .name
  | _ => .ok []

/-- The text of a tag with its escapes replaced; `skip` characters belong to escapes that were
replaced already. -/
def unescapeTag : (skip : Nat) → List Char → Except Flaw (List Char)
  | _, [] => .ok []
  | skip + 1, _ :: rest => unescapeTag skip rest
  | 0, c :: rest =>
    if c = '%' then do
      let bytes ← tagEscapes (c :: rest)
      match Text.decodeUtf8 bytes with
      | .ok text => return text ++ (← unescapeTag (3 * bytes.length - 1) rest)
      | .error _ => throw .name
    else do return c :: (← unescapeTag 0 rest)

/-- The text of a tag from here on. -/
def tagText (cursor : Cursor) : Except Flaw (String × Cursor) :=
  let text := cursor.run isTagChar
  if text.isEmpty then .error .name
  else (unescapeTag 0 text).map fun found => (.ofList found, cursor.skip text.length)

/-- The handle of a tag from here on: a name between exclamation marks, or one mark alone. -/
def tagHandle (cursor : Cursor) : Except Flaw (String × Cursor) :=
  let name := cursor.next.run isNameChar
  if !cursor.isAt '!' then .error .name
  else if cursor.peek 1 = some ' ' then .ok ("!", cursor.next)
  else if cursor.peek (name.length + 1) = some '!' then
    .ok (.ofList ('!' :: name ++ ['!']), cursor.skip (name.length + 2))
  else .error .name

/-- The number from here on. -/
def directiveNumber (cursor : Cursor) : Except Flaw (Nat × Cursor) :=
  let digits := cursor.run Char.isDigit
  if digits.isEmpty then .error .directive
  else .ok (Json.asciiValue digits, cursor.skip digits.length)

/-- The directive with a name and the place behind it; the cursor is behind the name. -/
def directiveToken (name : String) (cursor : Cursor) : Except Flaw (Token × Cursor) :=
  if name = "YAML" then do
    let (major, cursor) ← directiveNumber cursor.skipBlanks
    if !cursor.isAt '.' then throw .directive
    let (_, cursor) ← directiveNumber cursor.next
    if endsWord cursor.head then return (.version major, cursor) else throw .directive
  else if name = "TAG" then do
    let (handle, cursor) ← tagHandle cursor.skipBlanks
    if !cursor.isAt ' ' then throw .directive
    let (start, cursor) ← tagText cursor.skipBlanks
    if endsWord cursor.head then return (.tagHandle handle start, cursor) else throw .directive
  else .ok (.otherDirective, cursor.skipRun (!isBreak ·))

/-- The directive from here on; it takes up a line. -/
def directive (cursor : Cursor) : Except Flaw (Token × Cursor) := do
  let cursor := cursor.next
  let name := cursor.run isNameChar
  let cursor := cursor.skip name.length
  if name.isEmpty || !endsWord cursor.head then throw .directive
  let (token, cursor) ← directiveToken (.ofList name) cursor
  let cursor := cursor.skipBlanks
  let cursor := if cursor.isAt '#' then cursor.skipRun (!isBreak ·) else cursor
  if endsLine cursor.head then return (token, cursor.next) else throw .directive

/-- The name of an anchor or an alias; the cursor is at its sign. -/
def anchorName (cursor : Cursor) : Except Flaw (String × Cursor) :=
  let name := cursor.next.run isNameChar
  let behind := cursor.next.skip name.length
  let ends := endsToken behind.head || behind.head.any (isOneOf "?:,]\x7d%@\x60")
  if name.isEmpty || !ends then .error .name else .ok (.ofList name, behind)

/-- The word of a tag has a further exclamation mark, which makes it begin with a handle. -/
def hasHandle (cursor : Cursor) : Bool :=
  (cursor.next.run fun c => !(c = ' ' || isBreak c)).contains '!'

/-- The tag from here on. -/
def tagToken (cursor : Cursor) : Except Flaw (Token × Cursor) := do
  let (token, cursor) ←
    if cursor.peek 1 = some '<' then do
      let (text, cursor) ← tagText (cursor.skip 2)
      if cursor.isAt '>' then pure (Token.tag none text, cursor.next) else throw .name
    else if endsToken (cursor.peek 1) then pure (Token.tag none "!", cursor.next)
    else if hasHandle cursor then do
      let (handle, cursor) ← tagHandle cursor
      let (text, cursor) ← tagText cursor
      pure (Token.tag (some handle) text, cursor)
    else do
      let (text, cursor) ← tagText cursor.next
      pure (Token.tag (some "!") text, cursor)
  if endsWord cursor.head then return (token, cursor) else throw .name

/-! ### The steps -/

/-- A mark between documents, or a directive: everything that is open is closed. -/
def separate (s : TokenStream) : Except Flaw TokenStream :=
  (s.unwind (-1)).dropPending.map (·.allowKey false)

/-- A bracket that opens. -/
def opened (s : TokenStream) (token : Token) : Except Flaw TokenStream :=
  s.savePending.map fun s =>
    { s.pushAt token s.cursor.next with level := s.level + 1, allowsKey := true }

/-- A bracket that closes. -/
def closed (s : TokenStream) (token : Token) : Except Flaw TokenStream :=
  if s.inBlock then .error .arrangement
  else s.dropPending.map fun s =>
    { s.pushAt token s.cursor.next with level := s.level - 1, allowsKey := false }

/-- A comma. -/
def separated (s : TokenStream) : Except Flaw TokenStream :=
  (s.allowKey true).dropPending.map fun s => s.pushAt .comma s.cursor.next

/-- A sign that begins an item or a key of a collection of lines. -/
def began (s : TokenStream) (mark token : Token) (allowsKey : Bool) : Except Flaw TokenStream :=
  if s.inBlock && !s.allowsKey then .error .place
  else
    let s := if s.inBlock then s.openHere mark else s
    (s.allowKey allowsKey).dropPending.map fun s => s.pushAt token s.cursor.next

/-- A colon: it makes a key of the token that may be one. -/
def colon (s : TokenStream) : Except Flaw TokenStream :=
  match s.pendingHere with
  | some key =>
    -- The mark goes in front of the token that turns out to be a key, and the mark of a table that
    -- begins with that key goes in front of both.
    let s := { s with
      pending := s.pending.filter (·.level ≠ s.level)
      tokens := s.tokens.insertIdxIfInBounds key.position .key
      allowsKey := false }
    let s := if s.inBlock then s.openAt key.cursor.column key.position .tableStart else s
    .ok (s.pushAt .value s.cursor.next)
  | none => s.began .tableStart .value s.inBlock

/-- A token that may be a key, read by `reader`. -/
def named (s : TokenStream) (reader : Cursor → Except Flaw (Token × Cursor)) :
    Except Flaw TokenStream := do
  let s ← s.savePending
  let (token, cursor) ← reader s.cursor
  return (s.pushAt token cursor).allowKey false

/-- A text in quotes. -/
def quoted (s : TokenStream) (double : Bool) (fuel : Nat) : Except Flaw TokenStream :=
  s.named fun cursor =>
    (quotedText double fuel cursor.next).map fun found =>
      (.scalar false (.ofList found.1), found.2)

/-- A block of lines. -/
def block (s : TokenStream) (folded : Bool) (fuel : Nat) : Except Flaw TokenStream := do
  -- A block ends with a line, so a key may follow it.
  let s ← (s.allowKey true).dropPending
  let (text, cursor) ← blockText folded s.indent fuel s.cursor.next
  return s.pushAt (.scalar false (.ofList text)) cursor

/-- A plain text. -/
def plain (s : TokenStream) (fuel : Nat) : Except Flaw TokenStream :=
  s.savePending.map fun s =>
    let found := plainText (!s.inBlock) (s.indent + 1) [] fuel s.cursor false
    (s.pushAt (.scalar true (.ofList found.text)) found.cursor).allowKey found.newLine

/-- A plain text can begin with the character, given what follows it. -/
def startsPlain (s : TokenStream) (c : Char) : Bool :=
  !(endsToken (some c) || isOneOf "-?:,[]\x7b\x7d#&*!|>'\"%@\x60" c) ||
    (!endsToken (s.cursor.peek 1) && (c = '-' || (s.inBlock && (c = '?' || c = ':'))))

/-- The token that begins with the character `c` at the cursor. -/
def step (fuel : Nat) (c : Char) (s : TokenStream) : Except Flaw TokenStream :=
  let atStart := s.cursor.column = 0
  let standsAlone := endsToken (s.cursor.peek 1)
  if c = '%' && atStart then do
    let s ← s.separate
    let (token, cursor) ← directive s.cursor
    return s.pushAt token cursor
  else if atStart && s.cursor.isAtMark '-' then
    s.separate.map fun s => s.pushAt .documentStart (s.cursor.skip 3)
  else if atStart && s.cursor.isAtMark '.' then
    s.separate.map fun s => s.pushAt .documentEnd (s.cursor.skip 3)
  else if c = '[' then s.opened .openBracket
  else if c = '\x7b' then s.opened .openBrace
  else if c = ']' then s.closed .closeBracket
  else if c = '\x7d' then s.closed .closeBrace
  else if c = ',' then s.separated
  else if c = '-' && standsAlone then s.began .listStart .item true
  -- Between brackets a question mark and a colon need no blank behind them.
  else if c = '?' && (!s.inBlock || standsAlone) then s.began .tableStart .key s.inBlock
  else if c = ':' && (!s.inBlock || standsAlone) then s.colon
  else if c = '*' then s.named fun cursor => (anchorName cursor).map fun (n, r) => (.alias n, r)
  else if c = '&' then s.named fun cursor => (anchorName cursor).map fun (n, r) => (.anchor n, r)
  else if c = '!' then s.named tagToken
  else if c = '|' && s.inBlock then s.block false fuel
  else if c = '>' && s.inBlock then s.block true fuel
  else if c = '\'' then s.quoted false fuel
  else if c = '"' then s.quoted true fuel
  else if s.startsPlain c then s.plain fuel
  else .error .token

/-- All tokens from here on; `fuel` bounds their number by the number of characters. -/
def finish : (fuel : Nat) → TokenStream → Except Flaw (Array Token)
  | 0, s => .ok s.tokens
  | fuel + 1, s => do
    let s ← (skipToToken fuel s).dropStale
    let s := s.unwind s.cursor.column
    match s.cursor.head with
    | none =>
      -- The end of the text closes all collections.
      let s ← (s.unwind (-1)).dropPending
      return s.tokens
    | some c => finish fuel (← s.step fuel c)

end TokenStream

/-- The tokens of a text. -/
def tokens (text : List Char) : Except Flaw (List Token) :=
  let start : Cursor := { rest := text }
  let start := if start.isAt byteOrderMark then start.next else start
  if text.all isReadable then
    (TokenStream.finish (2 * text.length + 2) { cursor := start }).map (·.toList)
  else .error .unreadable

end PackageLint.Yaml
