import PackageLint.Text.Search

/-!
# Words of a script

A word is made of parts: plain text, and parameters that stand for something else. What stands in
quotes is kept together; a parameter outside of quotes is cut at its blanks and may vanish. This is
the part of a shell's language that stand-ins for processes are written in, and no more than that.
-/

namespace PackageLint.Shell

/-- What a word may refer to. -/
inductive Parameter
  /-- An argument of the script; the script itself is number zero. -/
  | position (n : Nat)
  /-- All arguments, each by itself. -/
  | arguments
  /-- All arguments as one text. -/
  | joined
  /-- The number of arguments. -/
  | count
  /-- The number of the process. -/
  | process
  /-- The status of the last command. -/
  | status
  deriving DecidableEq, Repr

/-- A part of a word. -/
inductive Part
  /-- Text as it stands. -/
  | text (cs : List Char)
  /-- A parameter, perhaps in quotes. -/
  | parameter (quoted : Bool) (p : Parameter)
  deriving DecidableEq, Repr

/-- A word as it is written. -/
abbrev Word := List Part

/-- The parameter that a character behind a dollar sign names. -/
def Parameter.ofChar? (c : Char) : Option Parameter :=
  match c with
  | '@' => some arguments
  | '*' => some joined
  | '#' => some count
  | '$' => some process
  | '?' => some status
  | c => if '0' ≤ c ∧ c ≤ '9' then some (position (c.toNat - 48)) else none

/-- What parameters stand for. -/
structure Values where
  /-- The name of the script. -/
  script : String
  /-- The arguments. -/
  arguments : List String
  /-- The status of the last command. -/
  status : Nat := 0

/-- The number that stands for the running process. -/
def processNumber : String := "4096"

/-- The texts that a parameter stands for. -/
def Values.texts (values : Values) : Parameter → List String
  | .position 0 => [values.script]
  | .position (n + 1) => [values.arguments[n]?.getD ""]
  | .arguments => values.arguments
  | .joined => [Text.joinWith " " values.arguments]
  | .count => [toString values.arguments.length]
  | .process => [processNumber]
  | .status => [toString values.status]

/-- A character that separates words. -/
def isSeparator (c : Char) : Bool := c = ' ' || c = '\t' || c = '\n'

/-- The fields of a text between its separators; the flags tell whether separators stand at the
start and at the end. -/
structure Fields where
  /-- A separator stands at the start. -/
  opened : Bool := false
  /-- The fields. -/
  fields : List (List Char) := []
  /-- A separator stands at the end. -/
  closed : Bool := false

/-- Cuts a text at its separators. -/
def Fields.ofText (cs : List Char) : Fields where
  opened := cs.head?.any isSeparator
  fields := (cs.splitBy fun a b => isSeparator a == isSeparator b).filter fun run =>
    !run.any isSeparator
  closed := cs.getLast?.any isSeparator

/-- The fields of a word that were found so far, the last of them in the making. -/
structure Expansion where
  /-- The fields that are complete. -/
  complete : List (List Char) := []
  /-- The field in the making, if one has begun. -/
  current : Option (List Char) := none

namespace Expansion

/-- More text for the field in the making. -/
def append (e : Expansion) (cs : List Char) : Expansion :=
  { e with current := some (e.current.getD [] ++ cs) }

/-- The field in the making is complete. -/
def close (e : Expansion) : Expansion :=
  { complete := e.complete ++ e.current.toList, current := none }

/-- Texts that are fields of their own. -/
def appendAll (e : Expansion) : List (List Char) → Expansion
  | [] => e
  | [cs] => e.append cs
  | cs :: rest => ((e.append cs).close).appendAll rest

/-- A text that is cut at its separators. -/
def appendCut (e : Expansion) (cs : List Char) : Expansion :=
  let cut := Fields.ofText cs
  let e := if cut.opened then e.close else e
  let e := e.appendAll cut.fields
  if cut.closed then e.close else e

/-- One more part. -/
def add (values : Values) (e : Expansion) : Part → Expansion
  | .text cs => e.append cs
  | .parameter true p => e.appendAll ((values.texts p).map String.toList)
  | .parameter false p =>
    match values.texts p with
    | [] => e
    | first :: rest =>
      -- Arguments are kept apart, and each of them is cut at its blanks besides.
      rest.foldl (fun e s => e.close.appendCut s.toList) (e.appendCut first.toList)

end Expansion

/-- The texts that a word stands for. -/
def Word.expand (values : Values) (word : Word) : List String :=
  ((word.foldl (Expansion.add values) {}).close.complete).map String.ofList

/-- The only text that a word stands for where nothing is cut. -/
def Word.text (values : Values) (word : Word) : String :=
  String.join <| word.map fun part =>
    match part with
    | .text cs => .ofList cs
    | .parameter _ p => Text.joinWith " " (values.texts p)

/-- Plain text stands for itself. -/
@[simp] theorem Word.expand_text (values : Values) (cs : List Char) :
    Word.expand values [.text cs] = [.ofList cs] := by
  simp [Word.expand, Expansion.add, Expansion.append, Expansion.close]

end PackageLint.Shell
