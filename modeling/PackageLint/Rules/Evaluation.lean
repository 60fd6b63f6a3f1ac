import PackageLint.Rules.Table
import PackageLint.Text.Search

/-!
# Evaluating rules

Every rule of every table is tried on a text, one table after the other. A rule that is found is
reported unless an equal one has been; praise is collected with its repetitions. The meaning of "the
rule is found in the text" is a parameter.

## Main results

* `Gate.isOpen_iff`: when the rules behind a gate are tried.
-/

namespace PackageLint

/-- A find that is reported as a problem. -/
structure RuleIssue where
  /-- How bad it is. -/
  severity : Severity
  /-- The kind of the rule. -/
  kind : RuleKind
  /-- The message of the rule. -/
  message : String
  /-- Where more is to be read. -/
  reference : Option String := none
  /-- The file of the find. -/
  file : Option String := none
  deriving DecidableEq, Repr

namespace RuleIssue

/-- The issue that a rule raises in a file. -/
def ofRule (file : Option String) (rule : Rule) : RuleIssue where
  severity := rule.severity.getD .error
  kind := rule.kind
  message := rule.message
  reference := rule.reference
  file := file

/-- A text that is there and not empty. -/
def nonempty (s? : Option String) : Option String := s?.filter (!·.isEmpty)

/-- The issue as a diagnostic. -/
def toDiagnostic (issue : RuleIssue) : Diagnostic where
  severity := issue.severity
  category := .compilation
  message := issue.message
  location := (nonempty issue.file).map fun file => { file }
  suggestion := (nonempty issue.reference).map ("See: " ++ ·)

end RuleIssue

/-- The number of issues that are errors or worse. -/
def errorCount (issues : List RuleIssue) : Nat := issues.countP (·.severity.atLeast .error)

/-- The number of issues that are warnings. -/
def warningCount (issues : List RuleIssue) : Nat := issues.countP (·.severity = .warning)

/-- What the rules say of one text. -/
structure RuleFindings where
  /-- The problems. -/
  issues : List RuleIssue := []
  /-- The praise. -/
  positives : List String := []
  deriving DecidableEq, Repr

/-- The gate opens for a text. -/
def Gate.isOpen (gate : Gate) (text : List Char) : Bool :=
  Text.occursIn gate.marker.toList text

/-- A gate is open for the texts that its marker is a part of. -/
theorem Gate.isOpen_iff {gate : Gate} {text : List Char} :
    gate.isOpen text = true ↔ gate.marker.toList <:+: text :=
  Text.occursIn_iff_isInfix

/-- What is known of a text after some of the rules have been tried on it. -/
structure RuleSearch where
  /-- The rules that have been reported. -/
  reported : List Rule := []
  /-- What has been said of the text. -/
  findings : RuleFindings := {}
  deriving DecidableEq, Repr

namespace RuleSearch

/-- Reports a rule, unless an equal one has been reported. -/
def report (file : Option String) (search : RuleSearch) (rule : Rule) : RuleSearch :=
  if rule ∈ search.reported then search
  else {
    reported := search.reported ++ [rule]
    findings := { search.findings with
      issues := search.findings.issues ++ [.ofRule file rule] } }

/-- Says the praise of a rule. -/
def praise (search : RuleSearch) (rule : Rule) : RuleSearch :=
  { search with findings := { search.findings with
      positives := search.findings.positives ++ [rule.message] } }

/-- Tries the rules of a table and takes note of those that hold. -/
def tryTable (holds : Rule → Bool) (note : RuleSearch → Rule → RuleSearch) (search : RuleSearch)
    (rules : List Rule) : RuleSearch :=
  rules.foldl (fun search rule => if holds rule then note search rule else search) search

/-- Tries the rules behind a gate if it is open. -/
def tryGate (holds : Rule → Bool) (file : Option String) (text : List Char) (search : RuleSearch)
    (gate : Gate) : RuleSearch :=
  if gate.isOpen text then search.tryTable holds (report file) gate.rules else search

end RuleSearch

namespace RuleTables

open RuleSearch in
/-- Tries all rules on a text, given which rules are found in which texts. -/
def searchWith (found : Rule → List Char → Bool) (tables : RuleTables) (text : List Char)
    (file : Option String) : RuleSearch :=
  let holds (rule : Rule) : Bool := found rule text
  let search := tryTable holds (report file) {} tables.deprecated
  let search := tryTable holds (report file) search tables.antiPatterns
  let search := tryTable holds praise search tables.required
  tables.contextual.foldl (tryGate holds file text) search

/-- What the rules say of a text, given which rules are found in which texts. -/
def evaluateWith (found : Rule → List Char → Bool) (tables : RuleTables) (text : List Char)
    (file : Option String) : RuleFindings :=
  (tables.searchWith found text file).findings

/-- What the rules say of a text. -/
def evaluate (tables : RuleTables) (text : List Char) (file : Option String) : RuleFindings :=
  tables.evaluateWith (fun rule => Pattern.occurs rule.pattern) text file

end RuleTables

end PackageLint
