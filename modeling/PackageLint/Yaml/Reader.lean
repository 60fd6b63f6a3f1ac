import PackageLint.Document.Written
import PackageLint.Text.Case
import PackageLint.Yaml.Node

/-!
# Reading YAML

The document of a text. Each scalar becomes the value that its form says; a table takes up the
entries of the tables that are merged into it, which its own entries go before.

The reader is a stand-in: it is more lenient than others with binary scalars and with an alias
inside of the node that it names. What is proved of configurations and rules therefore holds for any
reader of documents (`Languages`).
-/

namespace PackageLint.Yaml

/-- A part of a moment that is out of its range. -/
inductive MomentFlaw
  /-- The year. -/
  | year
  /-- The month. -/
  | month
  /-- The day. -/
  | day
  /-- The hour. -/
  | hour
  /-- The minute. -/
  | minute
  /-- The second. -/
  | second
  /-- The distance from universal time. -/
  | offset
  deriving DecidableEq, Repr

/-- A span of minutes as whole days and seconds of a day; nothing is said of seconds that are
none. -/
def spanText (minutes : Int) : String :=
  let seconds := 60 * (minutes.emod (24 * 60))
  let rest := if seconds = 0 then "" else s!", seconds={seconds}"
  s!"datetime.timedelta(days={minutes / (24 * 60)}{rest})"

/-- The wording of a flaw of a moment. -/
def MomentFlaw.message (moment : Form.Moment) : MomentFlaw → String
  | year => s!"year {moment.year} is out of range"
  | month => "month must be in 1..12"
  | day => "day is out of range for month"
  | hour => "hour must be in 0..23"
  | minute => "minute must be in 0..59"
  | second => "second must be in 0..59"
  | offset =>
    "offset must be a timedelta strictly between -timedelta(hours=24) and timedelta(hours=24), " ++
      s!"not {spanText moment.offset}."

/-- Why a text gives no value. -/
inductive Failure
  /-- The text is no document. -/
  | malformed (flaw : Flaw)
  /-- A moment is out of the calendar. -/
  | moment (moment : Form.Moment) (flaw : MomentFlaw)
  /-- A text was to be a whole number of a base and is none. -/
  | noInteger (base : Nat) (text : String)
  /-- A text was to be a floating point number and is none. -/
  | noReal (text : String)
  /-- A number is empty. -/
  | emptyNumber
  /-- A text was to be a truth value and is none. -/
  | noTruthValue
  /-- A text was to be a moment and is none. -/
  | noMoment
  deriving DecidableEq, Repr

/-- The wording of a failure. -/
def Failure.message : Failure → String
  | malformed flaw => flaw.message
  | moment found flaw => flaw.message found
  | noInteger base text => s!"invalid literal for int() with base {base}: {Text.quoted text}"
  | noReal text => s!"could not convert string to float: {Text.quoted text}"
  | emptyNumber => "an empty text is no number"
  | noTruthValue => "a text is no truth value"
  | noMoment => "a text is no moment"

namespace Scalars

/-- The number without its underscores, and its sign. -/
def signed (s : String) : Except Failure (Bool × List Char) :=
  match s.toList.filter (· ≠ '_') with
  | [] => .error .emptyNumber
  | cs => .ok (Text.takeSign cs)

/-- The number that digits of a base write. -/
def ofBase (base : Nat) (value? : Char → Option Nat) (cs : List Char) : Except Failure Int :=
  let digits := cs.filterMap fun c => (value? c).filter (· < base)
  if cs.isEmpty || digits.length < cs.length then .error (.noInteger base (.ofList cs))
  else .ok (digits.foldl (fun n d => base * n + d) 0 : Nat)

/-- The number that decimal digits write. -/
def ofDecimal (cs : List Char) : Except Failure Int :=
  match Text.integer? cs with
  | some n => .ok n
  | none => .error (.noInteger 10 (.ofList cs))

/-- The number that parts of base sixty write. -/
def ofSixtieths (parts : List (List Char)) : Except Failure Int :=
  (parts.mapM ofDecimal).map fun numbers => numbers.foldl (fun n part => 60 * n + part) 0

/-- The whole number that a text writes in any of the forms. -/
def int (s : String) : Except Failure Int := do
  let (negative, cs) ← signed s
  let n ← match cs with
    | [] => throw .emptyNumber
    | ['0'] => pure 0
    | '0' :: 'b' :: digits => ofBase 2 Json.hexValue? digits
    | '0' :: 'x' :: digits => ofBase 16 Json.hexValue? digits
    -- A zero in front is the sign of base eight.
    | '0' :: digits => ofBase 8 Json.hexValue? ('0' :: digits)
    | cs =>
      match Text.splitAt ':' cs with
      | [digits] => ofDecimal digits
      | parts => ofSixtieths parts
  return if negative then -n else n

/-- The floating point number that decimal digits write. -/
def ofPoint (cs : List Char) : Except Failure Binary64 :=
  match Binary64.read? cs with
  | some x => .ok x
  | none => .error (.noReal (.ofList cs))

/-- The sum of the parts of a number of base sixty, the last part first, with the weight of the
next part. -/
def sumSixtieths : (weight : Nat) → List Binary64 → (sum : Binary64) → Binary64
  | _, [], sum => sum
  | weight, part :: rest, sum =>
    sumSixtieths (60 * weight) rest (sum.add (part.mul (.ofInt weight)))

/-- The floating point number that a text writes in any of the forms. -/
def real (s : String) : Except Failure Binary64 := do
  let (negative, cs) ← signed (Text.lowered s)
  let x ←
    if cs = ".inf".toList then pure (.infinite false)
    else if cs = ".nan".toList then pure .nan
    else match Text.splitAt ':' cs with
      | [digits] => ofPoint digits
      | parts => do
        let parts ← parts.mapM ofPoint
        pure (sumSixtieths 1 parts.reverse .zero)
  return if negative then x.neg else x

/-- The truth value that a text writes. -/
def bool (s : String) : Except Failure Bool :=
  let name := Text.lowered s
  if Form.trueNames.contains name then .ok true
  else if Form.falseNames.contains name then .ok false
  else .error .noTruthValue

/-- What is out of range in a moment, if anything is. -/
def momentFlaw? (moment : Form.Moment) : Option MomentFlaw :=
  let (hour, minute, second) := moment.time.getD (0, 0, 0)
  -- The distance from universal time is looked at before the parts of the moment.
  if 24 * 60 ≤ moment.offset.natAbs then some .offset
  else if moment.year = 0 then some .year
  else if moment.month = 0 || 12 < moment.month then some .month
  else if moment.day = 0 || Form.Moment.daysIn moment.year moment.month < moment.day then some .day
  else if 23 < hour then some .hour
  else if 59 < minute then some .minute
  else if 59 < second then some .second
  else none

/-- The moment that a text writes; a day alone has a written form of its own. -/
def moment (s : String) : Except Failure Scalar :=
  match Form.Moment.ofText? s.toList with
  | none => .error .noMoment
  | some found =>
    match momentFlaw? found with
    | some flaw => .error (.moment found flaw)
    | none =>
      if found.time.isSome then .ok (.other s)
      else .ok (.other s!"datetime.date({found.year}, {found.month}, {found.day})")

/-- The value of a scalar of a form. -/
def ofForm (form : Form) (s : String) : Except Failure Scalar :=
  match form with
  | .null => .ok .null
  | .bool => (bool s).map .bool
  | .int => (int s).map .int
  | .real => (real s).map .real
  | .moment => moment s
  | .binary => .ok (.other s)
  | .text => .ok (.text s)
  | _ => .error (.malformed .tag)

end Scalars

namespace Node

/-- The entries of a table: those that are merged into it, and its own. -/
abbrev Entries := Table × Table

/-- All entries, the merged ones first. -/
def Entries.all (entries : Entries) : Table := entries.1 ++ entries.2

/-- The key that a node gives. A collection is no key, and the sign for a value is a text there. -/
def key : Node → Except Failure Scalar
  | scalar .value text => .ok (.text text)
  | scalar form text => Scalars.ofForm form text
  | list _ _ | table _ _ => .error (.malformed .tag)

/-- The key and the value of a table with one entry, as a list. -/
def pairOf : Value → Except Failure Value
  | .table [(key, value)] => .ok (.list [.scalar key, value])
  | _ => .error (.malformed .tag)

/-- A list of tables with one entry each, as lists of two. -/
def pairsOf (items : List Value) : Except Failure Value := (items.mapM pairOf).map .list

/-- A set with the given entries; the empty set counts as nothing. -/
def setOf (entries : Table) : Value :=
  if entries.isEmpty then .list []
  else .scalar (.other (Value.table (Table.ofPairs entries)).inner)

mutual

/-- The value of a node. -/
def value : Node → Except Failure Value
  | scalar form text => (Scalars.ofForm form text).map .scalar
  | list form items =>
    match form with
    | .list => (values items).map .list
    | .pairs =>
      match values items with
      | .ok found => pairsOf found
      | .error failure => .error failure
    | _ => .error (.malformed .tag)
  | table form entries =>
    match form with
    | .table => (entriesOf entries).map fun found => .table (Table.ofPairs found.all)
    | .set => (entriesOf entries).map fun found => setOf found.all
    | _ => .error (.malformed .tag)

/-- The values of nodes. -/
def values : List Node → Except Failure (List Value)
  | [] => .ok []
  | node :: rest =>
    match node.value with
    | .error failure => .error failure
    | .ok v => (values rest).map (v :: ·)

/-- The entries of a table. -/
def entriesOf : List (Node × Node) → Except Failure Entries
  | [] => .ok ([], [])
  | (k, v) :: rest =>
    match k with
    -- Merged entries go in front, so that the own entries of the table are the later ones.
    | scalar .merge _ =>
      match mergedEntries v, entriesOf rest with
      | .ok merged, .ok (others, own) => .ok (merged ++ others, own)
      | .error failure, _ => .error failure
      | _, .error failure => .error failure
    | k =>
      match k.key, v.value, entriesOf rest with
      | .ok key, .ok value, .ok (merged, own) => .ok (merged, (key, value) :: own)
      | .error failure, _, _ => .error failure
      | _, .error failure, _ => .error failure
      | _, _, .error failure => .error failure

/-- The entries of a table, or of the tables of a list, of which the first one goes last. -/
def mergedEntries : Node → Except Failure Table
  | table _ entries => (entriesOf entries).map (·.all)
  | list _ items => mergedItems items
  | scalar _ _ => .error (.malformed .tag)

/-- The entries of the tables of a list, of which the first one goes last. -/
def mergedItems : List Node → Except Failure Table
  | [] => .ok []
  | table _ entries :: rest =>
    match entriesOf entries, mergedItems rest with
    | .ok found, .ok others => .ok (others ++ found.all)
    | .error failure, _ => .error failure
    | _, .error failure => .error failure
  | _ :: _ => .error (.malformed .tag)

end

end Node

/-- The document of a text. -/
def read (text : List Char) : Except Failure Value :=
  match (tokens text).bind Node.ofTokens with
  | .error flaw => .error (.malformed flaw)
  | .ok node => node.value

end PackageLint.Yaml
