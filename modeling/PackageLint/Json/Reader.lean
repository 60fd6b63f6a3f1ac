import PackageLint.Document.Value
import PackageLint.Number.Decimal

/-!
# Reading JSON

A recursive descent over the characters of a text. The reader knows the whole numbers of any size,
the names of infinity and of no number, and keeps the last value of a repeated key. A failure says
what was expected and where; `read` is the entry point for a whole text.

Half a surrogate pair is no character here, so texts that keep such halves apart are left aside:
each of them becomes the same replacement character (`charOf`). Left aside as well are the limits
that an interpreter may set on the digits of a number and on the depth of a document: a number of
any length and a nesting of any depth is read.

## Main results

* `read?_eq_some_iff`: both entry points accept the same texts and give the same document.
-/

namespace PackageLint.Json

open Text

/-- What is wrong with a text that is no JSON. -/
inductive Flaw
  /-- No value starts here. -/
  | value
  /-- A key in double quotes is missing. -/
  | name
  /-- The colon behind a key is missing. -/
  | colon
  /-- The comma behind an element is missing. -/
  | comma
  /-- Something follows the value. -/
  | extraData
  /-- A text that starts here has no end. -/
  | unterminated
  /-- A control character stands inside a text. -/
  | controlCharacter
  /-- A backslash is not followed by the name of an escape. -/
  | escape
  /-- An escape by code point is incomplete. -/
  | unicodeEscape
  /-- The text starts with a byte order mark. -/
  | byteOrderMark
  deriving DecidableEq, Repr

/-- The wording of a flaw. -/
def Flaw.message : Flaw → String
  | value => "Expecting value"
  | name => "Expecting property name enclosed in double quotes"
  | colon => "Expecting ':' delimiter"
  | comma => "Expecting ',' delimiter"
  | extraData => "Extra data"
  | unterminated => "Unterminated string starting at"
  | controlCharacter => "Invalid control character at"
  | escape => "Invalid \\escape"
  | unicodeEscape => "Invalid \\uXXXX escape"
  | byteOrderMark => "Unexpected UTF-8 BOM (decode using utf-8-sig)"

/-- A failure inside the reader: the flaw and the number of characters from it to the end. -/
structure Stop where
  /-- What is wrong. -/
  flaw : Flaw
  /-- The number of characters from the flaw to the end of the text. -/
  left : Nat
  deriving DecidableEq, Repr

/-- A failure to read a text. -/
structure Failure where
  /-- What is wrong. -/
  flaw : Flaw
  /-- The line of the flaw, counted from one. -/
  line : Nat
  /-- The column of the flaw, counted from one. -/
  column : Nat
  /-- The number of characters before the flaw. -/
  position : Nat
  deriving DecidableEq, Repr

/-- The wording of a failure with its place. -/
def Failure.message (f : Failure) : String :=
  s!"{f.flaw.message}: line {f.line} column {f.column} (char {f.position})"

/-- Blanks between the tokens of JSON. -/
def isSpace (c : Char) : Bool := c = ' ' || c = '\t' || c = '\n' || c = '\r'

/-- The text without its leading spaces. -/
def skipSpaces (cs : List Char) : List Char := cs.dropWhile isSpace

/-- The value of a hexadecimal digit. -/
def hexValue? (c : Char) : Option Nat :=
  let n := c.toNat
  if 0x30 ≤ n ∧ n ≤ 0x39 then some (n - 0x30)
  else if 0x61 ≤ n ∧ n ≤ 0x66 then some (n - 0x57)
  else if 0x41 ≤ n ∧ n ≤ 0x46 then some (n - 0x37)
  else none

/-- The number that hexadecimal digits write. -/
def hexNumber? (cs : List Char) : Option Nat :=
  cs.foldl (fun n? c => n?.bind fun n => (hexValue? c).map (16 * n + ·)) (some 0)

/-- A code point as a character. Half a surrogate pair is none, and becomes a replacement character:
documents with such halves are outside of what the reader stands for. -/
def charOf (n : Nat) : Char :=
  if 0xD800 ≤ n ∧ n ≤ 0xDFFF then Char.ofNat 0xFFFD else Char.ofNat n

/-- The character that the first half of a pair of surrogates makes with what stands behind the next
`\u`, and the number of characters it takes. Two halves that follow each other are one character. -/
def pairWith (high : Nat) (rest : List Char) : Except Stop (Char × Nat) :=
  if 0xD800 ≤ high ∧ high < 0xDC00 ∧ 5 ≤ rest.length then
    match hexNumber? (rest.take 4) with
    | none => .error ⟨.unicodeEscape, rest.length + 1⟩
    | some low =>
      if 0xDC00 ≤ low ∧ low < 0xE000 then
        .ok (Char.ofNat (0x10000 + (high - 0xD800) * 0x400 + (low - 0xDC00)), 10)
      else .ok (charOf high, 4)
  else .ok (charOf high, 4)

/-- The character of an escape by code point, with the number of characters it takes behind the
`u`. -/
def codePoint (cs : List Char) : Except Stop (Char × Nat) :=
  if cs.length < 5 then .error ⟨.unicodeEscape, cs.length + 1⟩
  else match hexNumber? (cs.take 4) with
    | none => .error ⟨.unicodeEscape, cs.length + 1⟩
    | some high =>
      match cs.drop 4 with
      | '\\' :: 'u' :: rest => pairWith high rest
      | _ => .ok (charOf high, 4)

/-- The character of an escape behind its backslash, with the number of characters it takes. The
text it stands in starts `start` characters before the end. -/
def escaped (start : Nat) (cs : List Char) : Except Stop (Char × Nat) :=
  match cs with
  | [] => .error ⟨.unterminated, start⟩
  | 'u' :: rest => (codePoint rest).map fun p => (p.1, p.2 + 1)
  | '"' :: _ => .ok ('"', 1)
  | '\\' :: _ => .ok ('\\', 1)
  | '/' :: _ => .ok ('/', 1)
  | 'b' :: _ => .ok ('\x08', 1)
  | 'f' :: _ => .ok ('\x0c', 1)
  | 'n' :: _ => .ok ('\n', 1)
  | 'r' :: _ => .ok ('\r', 1)
  | 't' :: _ => .ok ('\t', 1)
  | _ :: _ => .error ⟨.escape, cs.length + 1⟩

/-- The characters of a text up to its closing quote, and what follows it. -/
def readText (start : Nat) (cs : List Char) : Except Stop (List Char × List Char) :=
  match cs with
  | [] => .error ⟨.unterminated, start⟩
  | '"' :: rest => .ok ([], rest)
  | '\\' :: rest =>
    match escaped start rest with
    | .error stop => .error stop
    | .ok (c, width) =>
      match readText start (rest.drop width) with
      | .error stop => .error stop
      | .ok (text, rest) => .ok (c :: text, rest)
  | c :: rest =>
    if c.toNat < 0x20 then .error ⟨.controlCharacter, cs.length⟩
    else match readText start rest with
      | .error stop => .error stop
      | .ok (text, rest) => .ok (c :: text, rest)
termination_by cs.length

/-- The digits at the start of a text, and the rest of it. -/
def takeAsciiDigits (cs : List Char) : List Char × List Char :=
  (cs.takeWhile Char.isDigit, cs.dropWhile Char.isDigit)

/-- The value of ASCII digits. -/
def asciiValue (ds : List Char) : Nat := ds.foldl (fun n d => 10 * n + (d.toNat - 0x30)) 0

/-- The digits before the point: a zero alone, or digits that start with another one. -/
def takeWhole : List Char → Option (List Char × List Char)
  | '0' :: rest => some (['0'], rest)
  | c :: rest => if c.isDigit then some (takeAsciiDigits (c :: rest)) else none
  | [] => none

/-- The digits behind a point, if the point is followed by one. -/
def takeFraction : List Char → Option (List Char × List Char)
  | '.' :: c :: rest => if c.isDigit then some (takeAsciiDigits (c :: rest)) else none
  | _ => none

/-- The exponent behind an `e`, if it has a digit. -/
def takeExponent : List Char → Option (Int × List Char)
  | [] => none
  | c :: rest =>
    if c = 'e' ∨ c = 'E' then
      let (negative, rest) := takeSign rest
      match takeAsciiDigits rest with
      | ([], _) => none
      | (ds, rest) => some (if negative then -(asciiValue ds : Int) else asciiValue ds, rest)
    else none

/-- A minus, which the flag says, and what follows it. -/
def takeMinus : List Char → Bool × List Char
  | '-' :: rest => (true, rest)
  | cs => (false, cs)

/-- The number with the given sign and digits before the point, and the rest of it. -/
def numberFrom (negative : Bool) (whole rest : List Char) : Value × List Char :=
  let fraction := takeFraction rest
  let rest := fraction.elim rest (·.2)
  let exponent := takeExponent rest
  let rest := exponent.elim rest (·.2)
  -- A point or an exponent makes a floating point number.
  if fraction.isNone && exponent.isNone then
    (.int (if negative then -(asciiValue whole : Int) else asciiValue whole), rest)
  else
    let places := fraction.elim [] (·.1)
    let power : Int := exponent.elim 0 (·.1)
    (.real (.ofDecimal negative (asciiValue (whole ++ places)) (power - places.length)), rest)

/-- The number at the start of a text, and the rest of it. -/
def readNumber (cs : List Char) : Option (Value × List Char) :=
  let (negative, body) := takeMinus cs
  (takeWhole body).map fun (whole, rest) => numberFrom negative whole rest

/-- The names that stand for values. -/
def namedValues : List (List Char × Value) := [
  ("null".toList, .null),
  ("true".toList, .bool true),
  ("false".toList, .bool false),
  ("NaN".toList, .real .nan),
  ("Infinity".toList, .real (.infinite false)),
  ("-Infinity".toList, .real (.infinite true))]

/-- The value without parts at the start of a text, and the rest of it. -/
def readAtom (cs : List Char) : Except Stop (Value × List Char) :=
  match cs with
  | '"' :: rest => (readText cs.length rest).map fun p => (.text (.ofList p.1), p.2)
  | _ =>
    match namedValues.find? (·.1.isPrefixOf cs) with
    | some (name, value) => .ok (value, cs.drop name.length)
    | none =>
      match readNumber cs with
      | some result => .ok result
      | none => .error ⟨.value, cs.length⟩

mutual

/-- The value at the start of a text, and the rest of it; `fuel` bounds the number of values,
keys and separators that are read, at most two for each character. -/
def readValue : (fuel : Nat) → List Char → Except Stop (Value × List Char)
  | 0, cs => .error ⟨.value, cs.length⟩
  | fuel + 1, '[' :: rest =>
    match skipSpaces rest with
    | ']' :: rest => .ok (.list [], rest)
    | rest => (readItems fuel rest).map fun p => (.list p.1, p.2)
  | fuel + 1, '\x7b' :: rest =>
    match skipSpaces rest with
    | '\x7d' :: rest => .ok (.table [], rest)
    | rest => (readEntries fuel rest).map fun p => (.table (Table.ofPairs p.1), p.2)
  | _ + 1, cs => readAtom cs

/-- The items of a list up to its closing bracket. -/
def readItems : (fuel : Nat) → List Char → Except Stop (List Value × List Char)
  | 0, cs => .error ⟨.value, cs.length⟩
  | fuel + 1, cs =>
    match readValue fuel cs with
    | .error stop => .error stop
    | .ok (item, rest) =>
      match skipSpaces rest with
      | ']' :: rest => .ok ([item], rest)
      | ',' :: rest => (readItems fuel (skipSpaces rest)).map fun p => (item :: p.1, p.2)
      | rest => .error ⟨.comma, rest.length⟩

/-- The entries of a table up to its closing brace. -/
def readEntries : (fuel : Nat) → List Char → Except Stop (List (Scalar × Value) × List Char)
  | 0, cs => .error ⟨.value, cs.length⟩
  | fuel + 1, cs =>
    match cs with
    | '"' :: rest =>
      match readText cs.length rest with
      | .error stop => .error stop
      | .ok (key, rest) =>
        match skipSpaces rest with
        | ':' :: rest =>
          match readValue fuel (skipSpaces rest) with
          | .error stop => .error stop
          | .ok (value, rest) =>
            let entry := (Scalar.text (.ofList key), value)
            match skipSpaces rest with
            | '\x7d' :: rest => .ok ([entry], rest)
            | ',' :: rest => (readEntries fuel (skipSpaces rest)).map fun p => (entry :: p.1, p.2)
            | rest => .error ⟨.comma, rest.length⟩
        | rest => .error ⟨.colon, rest.length⟩
    | _ => .error ⟨.name, cs.length⟩

end

/-- The only value of a text. -/
def readWhole (cs : List Char) : Except Stop Value :=
  if cs.head? = some (Char.ofNat 0xFEFF) then .error ⟨.byteOrderMark, cs.length⟩
  else match readValue (2 * cs.length + 2) (skipSpaces cs) with
    | .error stop => .error stop
    | .ok (value, rest) =>
      match skipSpaces rest with
      | [] => .ok value
      | rest => .error ⟨.extraData, rest.length⟩

/-- A failure with its place in the text. -/
def Stop.locate (stop : Stop) (cs : List Char) : Failure :=
  let position := cs.length - stop.left
  let before := cs.take position
  { flaw := stop.flaw
    line := before.count '\n' + 1
    column := (before.reverse.takeWhile (· != '\n')).length + 1
    position }

/-- The document that a text writes. -/
def read (cs : List Char) : Except Failure Value :=
  (readWhole cs).mapError (·.locate cs)

/-- The document that a text writes, if it writes one. -/
def read? (cs : List Char) : Option Value := (readWhole cs).toOption

/-- The two entry points accept the same texts. -/
theorem read?_eq_some_iff {cs : List Char} {v : Value} : read? cs = some v ↔ read cs = .ok v := by
  unfold read? read
  cases readWhole cs with
  | error stop => exact ⟨nofun, nofun⟩
  | ok value => exact ⟨fun h => by cases h; rfl, fun h => by cases h; rfl⟩

end PackageLint.Json
