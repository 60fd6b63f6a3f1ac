import PackageLint.Json.Reader
import PackageLint.Yaml.Cursor

/-!
# The texts of YAML scalars

A scalar is written plain, in single or double quotes, or as a block of lines. Line breaks inside
a scalar are folded: one break becomes a blank, further breaks are kept. All readers give the text
and the place behind it. Their `fuel` bounds the number of steps by the length of the text.
-/

namespace PackageLint.Yaml

/-- The breaks that an empty stretch of lines leaves: none between lines of which the first break
is an ordinary one and there are no others but a blank. -/
def foldedBreaks (first : Char) (others : List Char) : List Char :=
  if first = '\n' then (if others.isEmpty then [' '] else others) else first :: others

/-! ### Quoted texts -/

/-- The breaks of the empty lines from here on, blanks at the start of lines left aside. No
document may end inside of a text. -/
def quotedBreaks : (fuel : Nat) → Cursor → Except Flaw (List Char × Cursor)
  | 0, _ => .error .quotedText
  | fuel + 1, cursor =>
    if cursor.isAtSeparator then .error .quotedText
    else
      let cursor := cursor.skipRun fun c => c = ' ' || c = '\t'
      match cursor.head with
      | some c =>
        if isBreak c then
          (quotedBreaks fuel cursor.next).map fun found => (breakChar c :: found.1, found.2)
        else .ok ([], cursor)
      | none => .ok ([], cursor)

/-- The blanks and breaks between two words of a quoted text. -/
def quotedSpaces (fuel : Nat) (cursor : Cursor) : Except Flaw (List Char × Cursor) :=
  let isSpace (c : Char) : Bool := c = ' ' || c = '\t'
  let spaces := cursor.run isSpace
  let cursor := cursor.skipRun isSpace
  match cursor.head with
  | none => .error .quotedText
  | some c =>
    if isBreak c then
      (quotedBreaks fuel cursor.next).map fun found =>
        (foldedBreaks (breakChar c) found.1, found.2)
    else .ok (spaces, cursor)

/-- The characters that single letters stand for behind a backslash. -/
def simpleEscapes : List (Char × Nat) := [
  ('0', 0x00), ('a', 0x07), ('b', 0x08), ('t', 0x09), ('\t', 0x09), ('n', 0x0A), ('v', 0x0B),
  ('f', 0x0C), ('r', 0x0D), ('e', 0x1B), (' ', 0x20), ('"', 0x22), ('\\', 0x5C), ('/', 0x2F),
  ('N', 0x85), ('_', 0xA0), ('L', 0x2028), ('P', 0x2029)]

/-- The number of digits behind the letters of escapes by code point. -/
def codeEscapes : List (Char × Nat) := [('x', 2), ('u', 4), ('U', 8)]

/-- The characters that an escape stands for; the cursor is behind its backslash. -/
def quotedEscape (fuel : Nat) (cursor : Cursor) : Except Flaw (List Char × Cursor) :=
  match cursor.head with
  | none => .error .quotedText
  | some c =>
    match simpleEscapes.lookup c, codeEscapes.lookup c with
    | some code, _ => .ok ([Char.ofNat code], cursor.next)
    | none, some width =>
      let digits := cursor.next.rest.take width
      match Json.hexNumber? digits with
      | some code =>
        if digits.length = width then .ok ([Json.charOf code], cursor.next.skip width)
        else .error .quotedText
      | none => .error .quotedText
    -- A backslash at the end of a line joins two lines.
    | none, none => if isBreak c then quotedBreaks fuel cursor.next else .error .quotedText

/-- The next piece of a quoted text, `none` at its closing quote. -/
def quotedPiece (double : Bool) (fuel : Nat) (cursor : Cursor) :
    Except Flaw (Option (List Char) × Cursor) :=
  let piece (found : List Char × Cursor) : Option (List Char) × Cursor := (some found.1, found.2)
  match cursor.rest with
  | [] => .error .quotedText
  | c :: rest =>
    if c = ' ' || c = '\t' || isBreak c then (quotedSpaces fuel cursor).map piece
    else if double && c = '\\' then (quotedEscape fuel cursor.next).map piece
    else if double && c = '"' then .ok (none, cursor.next)
    else if !double && c = '\'' then
      if rest.head? = some '\'' then .ok (some ['\''], cursor.skip 2) else .ok (none, cursor.next)
    else .ok (some [c], cursor.next)

/-- The text up to the closing quote. -/
def quotedText (double : Bool) : (fuel : Nat) → Cursor → Except Flaw (List Char × Cursor)
  | 0, _ => .error .quotedText
  | fuel + 1, cursor =>
    match quotedPiece double fuel cursor with
    | .error flaw => .error flaw
    | .ok (none, cursor) => .ok ([], cursor)
    | .ok (some piece, cursor) =>
      (quotedText double fuel cursor).map fun found => (piece ++ found.1, found.2)

/-! ### Plain texts -/

/-- The character ends a word of a plain text, given what follows it. -/
def endsPlainWord (inFlow : Bool) (c : Char) (following : Option Char) : Bool :=
  endsToken (some c) ||
    (c = ':' && (endsToken following || (inFlow && following.any (isOneOf ",[]\x7b\x7d")))) ||
    (inFlow && isOneOf ",?[]\x7b\x7d" c)

/-- The word of a plain text from here on. -/
def plainWord (inFlow : Bool) : List Char → List Char
  | [] => []
  | c :: rest => if endsPlainWord inFlow c rest.head? then [] else c :: plainWord inFlow rest

/-- The breaks of the empty lines from here on, `none` where the document ends before the next
word. -/
def plainBreaks : (fuel : Nat) → Cursor → Option (List Char) × Cursor
  | 0, cursor => (none, cursor)
  | fuel + 1, cursor =>
    if cursor.isAtSeparator then (none, cursor)
    else
      let cursor := cursor.skipBlanks
      match cursor.head with
      | some c =>
        if isBreak c then
          let (found, cursor) := plainBreaks fuel cursor.next
          (found.map (breakChar c :: ·), cursor)
        else (some [], cursor)
      | none => (some [], cursor)

/-- What stands between two words of a plain text. -/
structure PlainGap where
  /-- The characters that go between the words; there is no further word where there are none. -/
  text : List Char
  /-- The place behind the gap. -/
  cursor : Cursor
  /-- A line was ended. -/
  newLine : Bool

/-- The gap from here on. -/
def plainGap (fuel : Nat) (cursor : Cursor) : PlainGap :=
  let blanks := cursor.run (· = ' ')
  let cursor := cursor.skipBlanks
  match cursor.head with
  | none => { text := blanks, cursor, newLine := false }
  | some c =>
    if isBreak c then
      let (found, cursor) := plainBreaks fuel cursor.next
      { text := found.elim [] (foldedBreaks (breakChar c)), cursor, newLine := true }
    else { text := blanks, cursor, newLine := false }

/-- A plain text that was read. -/
structure PlainText where
  /-- The text. -/
  text : List Char
  /-- The place behind it. -/
  cursor : Cursor
  /-- The text is followed by the end of a line. -/
  newLine : Bool

/-- The plain text from here on, behind the characters `gap` of a gap. Lines that are indented by
less than `indent` do not belong to it. -/
def plainText (inFlow : Bool) (indent : Int) (gap : List Char) :
    (fuel : Nat) → Cursor → (newLine : Bool) → PlainText
  | 0, cursor, newLine => { text := [], cursor, newLine }
  | fuel + 1, cursor, newLine =>
    let word := plainWord inFlow cursor.rest
    if cursor.isAt '#' || word.isEmpty then { text := [], cursor, newLine }
    else
      let following := plainGap fuel (cursor.skip word.length)
      -- Outside of brackets only lines that are indented go on with a text.
      let stops := following.text.isEmpty || following.cursor.isAt '#' ||
        (!inFlow && following.cursor.column < indent)
      let others :=
        if stops then
          { text := [], cursor := following.cursor, newLine := following.newLine : PlainText }
        else plainText inFlow indent following.text fuel following.cursor following.newLine
      { others with text := gap ++ word ++ others.text }

/-! ### Blocks of lines -/

/-- What becomes of the breaks at the end of a block. -/
inductive Chomping
  /-- The last break is kept. -/
  | clip
  /-- No break is kept. -/
  | strip
  /-- All breaks are kept. -/
  | keep
  deriving DecidableEq, Repr

/-- The sign of a way to treat the last breaks. -/
def chomping? : Option Char → Option Chomping
  | some '+' => some .keep
  | some '-' => some .strip
  | _ => none

/-- The value of a digit, which is not zero. -/
def indentDigit? (c? : Option Char) : Option Nat :=
  c?.bind fun c => if c.isDigit then some (c.toNat - 0x30) else none

/-- The head of a block: how the last breaks are treated, by how much the lines are indented, and
the place behind the head. -/
def blockHead (cursor : Cursor) : Except Flaw (Chomping × Option Nat × Cursor) :=
  let found : Chomping × Option Nat × Cursor :=
    match chomping? cursor.head with
    | some chomping =>
      match indentDigit? (cursor.peek 1) with
      | some width => (chomping, some width, cursor.skip 2)
      | none => (chomping, none, cursor.next)
    | none =>
      match indentDigit? cursor.head with
      | some width =>
        match chomping? (cursor.peek 1) with
        | some chomping => (chomping, some width, cursor.skip 2)
        | none => (.clip, some width, cursor.next)
      | none => (.clip, none, cursor)
  let (chomping, width, cursor) := found
  if width = some 0 || !endsWord cursor.head then .error .blockText
  else
    let cursor := cursor.skipBlanks
    let cursor := if cursor.isAt '#' then cursor.skipRun (!isBreak ·) else cursor
    if endsLine cursor.head then .ok (chomping, width, cursor.next) else .error .blockText

/-- The breaks of the empty lines at the start of a block, the greatest column that their blanks
or those of the first line reach, and the place behind them. -/
def blockLead : (fuel : Nat) → (widest : Nat) → Cursor → List Char × Nat × Cursor
  | 0, widest, cursor => ([], widest, cursor)
  | fuel + 1, widest, cursor =>
    match cursor.head with
    | some c =>
      if c = ' ' then blockLead fuel (max widest cursor.next.column) cursor.next
      else if isBreak c then
        let (breaks, widest, cursor) := blockLead fuel widest cursor.next
        (breakChar c :: breaks, widest, cursor)
      else ([], widest, cursor)
    | none => ([], widest, cursor)

/-- The place behind the blanks of a line up to a column. -/
def skipIndent (indent : Nat) (cursor : Cursor) : Cursor :=
  cursor.skip (min (indent - cursor.column) (cursor.run (· = ' ')).length)

/-- The breaks of the empty lines from here on, and the place behind the indentation of the next
line. -/
def blockBreaks (indent : Nat) : (fuel : Nat) → Cursor → List Char × Cursor
  | 0, cursor => ([], cursor)
  | fuel + 1, cursor =>
    let cursor := skipIndent indent cursor
    match cursor.head with
    | some c =>
      if isBreak c then
        let (breaks, cursor) := blockBreaks indent fuel cursor.next
        (breakChar c :: breaks, cursor)
      else ([], cursor)
    | none => ([], cursor)

/-- The line goes on with the text of a block. -/
def continuesBlock (indent : Nat) (cursor : Cursor) : Bool :=
  cursor.column = indent && cursor.head.isSome

/-- The next character is no blank. -/
def startsSolid (cursor : Cursor) : Bool := cursor.head != some ' ' && cursor.head != some '\t'

/-- What follows the text of a block: the break behind its last line, the breaks behind that, and
the place behind the block. -/
abbrev BlockEnd := List Char × List Char × Cursor

/-- The text of the lines of a block from here on, behind the breaks of empty lines, and what
follows it. -/
def blockLines (folded : Bool) (indent : Nat) :
    (fuel : Nat) → (breaks : List Char) → Cursor → List Char × BlockEnd
  | 0, breaks, cursor => ([], [], breaks, cursor)
  | fuel + 1, breaks, cursor =>
    if continuesBlock indent cursor then
      let line := cursor.run (!isBreak ·)
      let behind := cursor.skip line.length
      let lineBreak := behind.head.toList.map breakChar
      let (following, after) := blockBreaks indent fuel behind.next
      let text := breaks ++ line
      if continuesBlock indent after then
        -- Lines are folded where neither of the two starts with a blank.
        let joint :=
          if folded && lineBreak = ['\n'] && startsSolid cursor && startsSolid after then
            (if following.isEmpty then [' '] else [])
          else lineBreak
        let (others, last) := blockLines folded indent fuel following after
        (text ++ joint ++ others, last)
      else (text, lineBreak, following, after)
    else ([], [], breaks, cursor)

/-- The block behind its sign. The lines are indented by more than `parent`. -/
def blockText (folded : Bool) (parent : Int) (fuel : Nat) (cursor : Cursor) :
    Except Flaw (List Char × Cursor) :=
  (blockHead cursor).map fun (chomping, width, cursor) =>
    let least := max (parent + 1).toNat 1
    let (breaks, indent, cursor) := match width with
      | some width =>
        let indent := least + width - 1
        let (breaks, cursor) := blockBreaks indent fuel cursor
        (breaks, indent, cursor)
      | none =>
        -- The first line that is not empty sets the indentation.
        let (breaks, widest, cursor) := blockLead fuel 0 cursor
        (breaks, max least widest, cursor)
    let (text, lineBreak, breaks, cursor) := blockLines folded indent fuel breaks cursor
    let tail := match chomping with
      | .clip => lineBreak
      | .strip => []
      | .keep => lineBreak ++ breaks
    (text ++ tail, cursor)

end PackageLint.Yaml
