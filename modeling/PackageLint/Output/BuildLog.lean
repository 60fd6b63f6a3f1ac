import PackageLint.File.Path
import PackageLint.Output.Analysis
import PackageLint.Text.Blank
import PackageLint.Text.Digit
import PackageLint.Text.Lines
import PackageLint.Text.Search

/-!
# Logs of a build

A log holds messages with a place, `file:line:column: level: text`, and messages without one,
`level: text`. A message is reported unless one has been that it shares its key with: the name of
the file and the line, the level and the text.

## Main results

* `severity_eq_ofName`: a level is as bad as its name says, a note being informational.
-/

namespace PackageLint.Output

open Text

/-- How bad a message of a log is. -/
inductive LogLevel
  /-- The build fails. -/
  | error
  /-- The build goes on. -/
  | warning
  /-- More on the message before it. -/
  | note
  deriving DecidableEq, Repr

namespace LogLevel

/-- The name of a level. -/
def name : LogLevel → String
  | error => "error"
  | warning => "warning"
  | note => "note"

/-- The severity that a level means. -/
def severity : LogLevel → Severity
  | error => .error
  | warning => .warning
  | note => .info

end LogLevel

/-- A message of a log. -/
structure LogMessage where
  /-- The path of the file and the line. -/
  place : Option (Path × Nat)
  /-- How bad it is. -/
  level : LogLevel
  /-- What it says. -/
  text : String
  deriving DecidableEq, Repr

/-- What a report knows a message by. -/
structure LogKey where
  /-- The last part of the path, and the line. -/
  place : Option (String × Nat)
  /-- How bad it is. -/
  level : LogLevel
  /-- What it says. -/
  text : String
  deriving DecidableEq, Repr

namespace LogMessage

/-- A level with one of the names and the text behind it, at the start of `cs`. -/
def levelAndText? (levels : List LogLevel) (cs : List Char) : Option (LogLevel × String) :=
  levels.findSome? fun level =>
    let label := level.name.toList ++ [':']
    let text := trimStart (cs.drop label.length)
    if label.isPrefixOf cs && !text.isEmpty then some (level, .ofList text) else none

/-- A number with a colon behind it, and what follows the colon. A number may have any number of
digits; an interpreter that is set up to refuse long ones is left aside. -/
def takeNumber (cs : List Char) : Option (Nat × List Char) :=
  let digits := cs.takeWhile isDecimal
  match natural? digits, cs.drop digits.length with
  | some n, ':' :: rest => some (n, rest)
  | _, _ => none

/-- The message with a place on a trimmed line. -/
def located? (line : List Char) : Option LogMessage := do
  let file := line.takeWhile (· != ':')
  guard (!file.isEmpty)
  let (number, rest) ← takeNumber ((line.drop file.length).drop 1)
  -- The column may be missing.
  let rest := (takeNumber rest).elim rest (·.2)
  let (level, text) ← levelAndText? [.error, .warning, .note] (trimStart rest)
  return { place := some (.ofText (.ofList file), number), level, text }

/-- The message without a place on a trimmed line. -/
def bare? (line : List Char) : Option LogMessage :=
  (levelAndText? [.error, .warning] line).map fun (level, text) => { place := none, level, text }

/-- The message on a line. -/
def ofLine? (line : List Char) : Option LogMessage :=
  let line := trim line
  (located? line).or (bare? line)

/-- The message belongs to a target: the target is a part of its path. A message without a place
belongs to every target. -/
def belongsTo (target : String) (message : LogMessage) : Bool :=
  message.place.all (·.1.components.contains target)

/-- What the message is known by. -/
def key (message : LogMessage) : LogKey where
  place := message.place.map fun (path, line) => (path.name, line)
  level := message.level
  text := message.text

/-- The issue that a message raises. -/
def issue (message : LogMessage) : Issue where
  kind := if message.place.isSome then .compilation else .unknown
  severity := message.level.severity
  message := message.text
  file := message.place.map (·.1.name)
  line := message.place.map (·.2)

end LogMessage

/-- The messages of a log. -/
def logMessages (text : String) : List LogMessage := (linesOf text).filterMap LogMessage.ofLine?

/-- What is known of a log after some of its messages. -/
structure LogReading where
  /-- The keys of the messages that have been reported. -/
  seen : List LogKey := []
  /-- The issues. -/
  issues : List Issue := []
  deriving DecidableEq, Repr

/-- Reports a message, unless one with its key has been reported. -/
def LogReading.report (reading : LogReading) (message : LogMessage) : LogReading :=
  if message.key ∈ reading.seen then reading
  else {
    seen := reading.seen ++ [message.key]
    issues := reading.issues ++ [message.issue] }

/-- The analysis of a log, restricted to the messages of a target if one is given. -/
def readBuildLog (text : String) (filter : Option String) : Analysis :=
  let messages := (logMessages text).filter fun message => filter.all message.belongsTo
  let issues := (messages.foldl LogReading.report {}).issues
  { command := .build
    success := issues.all fun issue => !issue.severity.atLeast .error
    issues }

/-- The severity of a level is the one that its name means, a note being informational. -/
theorem severity_eq_ofName (level : LogLevel) : level.severity = .ofName level.name := by
  cases level <;> decide +kernel

end PackageLint.Output
