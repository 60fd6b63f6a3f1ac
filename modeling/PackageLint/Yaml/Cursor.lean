/-!
# Positions in a YAML text

A cursor is what is left of a text together with its column and line. YAML knows five line breaks;
a byte order mark takes up no column.
-/

namespace PackageLint.Yaml

/-- What is wrong with a text that is no document. -/
inductive Flaw
  /-- A character that no document may hold. -/
  | unreadable
  /-- No token starts here. -/
  | token
  /-- A text in quotes is not closed or has an escape that is none. -/
  | quotedText
  /-- The head of a block of text is followed by something else. -/
  | blockText
  /-- An anchor, an alias or a tag has no name. -/
  | name
  /-- A directive cannot be understood. -/
  | directive
  /-- An entry stands where there can be none. -/
  | place
  /-- A key has no colon. -/
  | key
  /-- The tokens make no document. -/
  | arrangement
  /-- An alias without its anchor, or an anchor given twice. -/
  | anchor
  /-- There is more than one document. -/
  | secondDocument
  /-- A tag is unknown or does not fit its value. -/
  | tag
  deriving DecidableEq, Repr

namespace Flaw

/-- The wording of a flaw. -/
def message : Flaw → String
  | unreadable => "the YAML text holds a character that may not stand in a document"
  | token => "the YAML text holds a character that starts no token"
  | quotedText => "a quoted YAML text has no end or an unknown escape"
  | blockText => "the head of a YAML block of text is followed by something else"
  | name => "a YAML anchor, alias or tag has no name"
  | directive => "a YAML directive cannot be understood"
  | place => "a YAML entry stands where there can be none"
  | key => "a YAML key has no colon"
  | arrangement => "the YAML tokens make no document"
  | anchor => "a YAML anchor is unknown or given twice"
  | secondDocument => "the YAML text holds more than one document"
  | tag => "a YAML tag is unknown or does not fit its value"

/-- All flaws. -/
def all : List Flaw := [
  unreadable, token, quotedText, blockText, name, directive, place, key, arrangement, anchor,
  secondDocument, tag]

end Flaw

/-- A character that may stand in a document. -/
def isReadable (c : Char) : Bool :=
  let n := c.toNat
  n = 0x09 || n = 0x0A || n = 0x0D || (0x20 ≤ n && n ≤ 0x7E) || n = 0x85 ||
    (0xA0 ≤ n && n ≤ 0xD7FF) || (0xE000 ≤ n && n ≤ 0xFFFD) || 0x10000 ≤ n

/-- A line break. -/
def isBreak (c : Char) : Bool :=
  let n := c.toNat
  n = 0x0A || n = 0x0D || n = 0x85 || n = 0x2028 || n = 0x2029

/-- The line break that a break in the text stands for. -/
def breakChar (c : Char) : Char :=
  if c.toNat = 0x2028 || c.toNat = 0x2029 then c else '\n'

/-- A line break or the end of the text. -/
def endsLine (c? : Option Char) : Bool := c?.all isBreak

/-- A blank, a line break or the end of the text. -/
def endsWord (c? : Option Char) : Bool := c?.all fun c => c = ' ' || isBreak c

/-- A blank, a tabulator, a line break or the end of the text. -/
def endsToken (c? : Option Char) : Bool := c?.all fun c => c = ' ' || c = '\t' || isBreak c

/-- The character is one of some marks. -/
def isOneOf (marks : String) (c : Char) : Bool := marks.toList.contains c

/-- The mark that may open a text. -/
def byteOrderMark : Char := Char.ofNat 0xFEFF

/-- A place in a text. -/
structure Cursor where
  /-- The characters from here on. -/
  rest : List Char
  /-- The column, counted from zero. -/
  column : Nat := 0
  /-- The line, counted from zero. -/
  line : Nat := 0
  /-- The number of characters before this place. -/
  index : Nat := 0
  deriving Repr

namespace Cursor

/-- The character a number of places ahead. -/
def peek (cursor : Cursor) (ahead : Nat) : Option Char := cursor.rest[ahead]?

/-- The next character. -/
def head (cursor : Cursor) : Option Char := cursor.rest.head?

/-- The next character is the given one. -/
def isAt (cursor : Cursor) (c : Char) : Bool := cursor.head = some c

/-- The place behind the next character. -/
def next (cursor : Cursor) : Cursor :=
  match cursor.rest with
  | [] => cursor
  | c :: rest =>
    if isBreak c then { rest, column := 0, line := cursor.line + 1, index := cursor.index + 1 }
    else
      let column := if c = byteOrderMark then cursor.column else cursor.column + 1
      { rest, column, line := cursor.line, index := cursor.index + 1 }

/-- The place behind a number of characters. -/
def skip (cursor : Cursor) : (count : Nat) → Cursor
  | 0 => cursor
  | count + 1 => skip cursor.next count

/-- The characters from here on that satisfy a test. -/
def run (cursor : Cursor) (test : Char → Bool) : List Char := cursor.rest.takeWhile test

/-- The place behind the characters that satisfy a test. -/
def skipRun (cursor : Cursor) (test : Char → Bool) : Cursor := cursor.skip (cursor.run test).length

/-- The place behind the blanks from here on. -/
def skipBlanks (cursor : Cursor) : Cursor := cursor.skipRun (· = ' ')

/-- Three equal marks stand here as a word of their own. -/
def isAtMark (cursor : Cursor) (mark : Char) : Bool :=
  cursor.rest.take 3 = [mark, mark, mark] && endsToken (cursor.peek 3)

/-- A mark that separates documents stands here. -/
def isAtSeparator (cursor : Cursor) : Bool := cursor.isAtMark '-' || cursor.isAtMark '.'

/-- Each step takes one character away. -/
theorem length_rest_next (cursor : Cursor) :
    cursor.next.rest.length = cursor.rest.length - 1 := by
  unfold next
  split
  · simp_all
  · split <;> simp_all

end Cursor

end PackageLint.Yaml
