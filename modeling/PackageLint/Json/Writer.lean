import PackageLint.Document.Value
import PackageLint.Number.Decimal
import PackageLint.Text.Quoted

/-!
# Writing JSON

Two layouts: on one line with a blank behind each comma, or indented with one element on a line.
Colons are followed by a blank, and only quotes, backslashes and control characters are escaped.
-/

namespace PackageLint.Json

open Text

/-- A character inside a text. -/
def escapeChar (c : Char) : List Char :=
  if c = '"' then ['\\', '"']
  else if c = '\\' then ['\\', '\\']
  else if c = '\n' then ['\\', 'n']
  else if c = '\r' then ['\\', 'r']
  else if c = '\t' then ['\\', 't']
  else if c = '\x08' then ['\\', 'b']
  else if c = '\x0c' then ['\\', 'f']
  else if c.toNat < 0x20 then '\\' :: 'u' :: hexDigits 4 c.toNat
  else [c]

/-- A text in quotes. -/
def writeText (s : String) : String :=
  .ofList ('"' :: s.toList.flatMap escapeChar ++ ['"'])

/-- A floating point number. -/
def writeReal : Binary64 → String
  | .nan => "NaN"
  | .infinite negative => if negative then "-Infinity" else "Infinity"
  | x => x.text

/-- A value without parts. -/
def writeScalar : Scalar → String
  | .null => "null"
  | .bool b => if b then "true" else "false"
  | .int n => toString n
  | .real x => writeReal x
  | .text s => writeText s
  | .other written => writeText written

/-- A key: a text as it is, any other scalar by its name. -/
def writeKey : Scalar → String
  | .text s | .other s => writeText s
  | s => writeText (writeScalar s)

/-- What stands before an element at a depth: nothing on one line, else a line feed and the
indentation. -/
def lineBreak (indent : Option Nat) (depth : Nat) : String :=
  match indent with
  | none => ""
  | some width => "\n" ++ .ofList (List.replicate (width * depth) ' ')

/-- Elements between brackets. -/
def bracketed (indent : Option Nat) (depth : Nat) (opening closing : String)
    (elements : List String) : String :=
  if elements.isEmpty then opening ++ closing
  else
    let separator := if indent.isNone then ", " else "," ++ lineBreak indent (depth + 1)
    opening ++ lineBreak indent (depth + 1) ++ separator.intercalate elements ++
      lineBreak indent depth ++ closing

mutual

/-- A value that stands `depth` brackets deep. -/
def writeAt (indent : Option Nat) (depth : Nat) : Value → String
  | .scalar s => writeScalar s
  | .list items => bracketed indent depth "[" "]" (writeItems indent (depth + 1) items)
  | .table entries =>
    bracketed indent depth "\x7b" "\x7d" (writeEntries indent (depth + 1) entries)

/-- The items of a list. -/
def writeItems (indent : Option Nat) (depth : Nat) : List Value → List String
  | [] => []
  | item :: rest => writeAt indent depth item :: writeItems indent depth rest

/-- The entries of a table. -/
def writeEntries (indent : Option Nat) (depth : Nat) : List (Scalar × Value) → List String
  | [] => []
  | (key, value) :: rest =>
    (writeKey key ++ ": " ++ writeAt indent depth value) :: writeEntries indent depth rest

end

/-- A document on one line, or with each element on a line of its own. -/
def write (indent : Option Nat) (v : Value) : String := writeAt indent 0 v

end PackageLint.Json
