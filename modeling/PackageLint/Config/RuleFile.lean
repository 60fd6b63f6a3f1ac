import PackageLint.Config.Basic
import PackageLint.Rules.Standard

/-!
# Files of rules

The rule tables of a file, or the standard ones where no file is named. What is dropped from the
file is said in the log; a pattern that is well-formed but cannot be searched for is not dropped,
it ends the reading.

## Main results

* `load_none`: where no file is named the standard tables apply;
* `eq_ofTable_of_build`: what is built from a document are the tables that it describes.
-/

namespace PackageLint

/-- What comes of a pattern with a fault: a text for the log, or a failure. -/
def Pattern.Fault.remark (fault : Pattern.Fault) (text : String) : Except Failure String :=
  if fault.isFatal then .error (.pattern fault) else .ok text

namespace Rule

/-- What comes of an entry that gives no rule. -/
def remark? (fault? : String → Option Pattern.Fault) (kind : RuleKind) (v : Value) :
    Option (Except Failure String) :=
  match v with
  | .table entry =>
    match essentials? entry with
    | none => some (.ok s!"Ignoring {kind.name} rule without pattern/message: {v.inner}")
    | some (pattern, _) => (fault? pattern).map fun fault => fault.remark
        s!"Dropping {kind.name} rule with invalid pattern {Text.quoted pattern}: {fault.message}"
  | v => some (.ok s!"Ignoring {kind.name} rule that is not a mapping: {v.inner}")

/-- What comes of the entries of a list. -/
def remarks (fault? : String → Option Pattern.Fault) (kind : RuleKind) (v : Value) :
    List (Except Failure String) :=
  v.items.filterMap (remark? fault? kind)

end Rule

namespace RuleTables

/-- What comes of the pattern for components. -/
def patternRemark? (fault? : String → Option Pattern.Fault) (composition : Value) :
    Option (Except Failure String) :=
  match composition with
  | .table entries =>
    (Table.get entries "component_pattern").nonemptyText?.bind fun pattern =>
      (fault? pattern).map fun fault => fault.remark <|
        s!"Keeping default component pattern; {Text.quoted pattern} is invalid: " ++ fault.message
  | _ => none

/-- What comes of the rules of a gate. -/
def gateRemarks (fault? : String → Option Pattern.Fault) (v : Value) :
    List (Except Failure String) :=
  match v with
  | .table entries => Rule.remarks fault? .contextual (Table.get entries "rules")
  | _ => []

/-- What comes of a document of rules beside its tables. -/
def remarks (fault? : String → Option Pattern.Fault) (entries : Table) :
    List (Except Failure String) :=
  Rule.remarks fault? .deprecated (Table.get entries "deprecated") ++
    Rule.remarks fault? .antiPattern (Table.get entries "anti_patterns") ++
    Rule.remarks fault? .required (Table.get entries "required") ++
    (Table.get entries "contextual").items.flatMap (gateRemarks fault?) ++
    (patternRemark? fault? (Table.get entries "composition")).toList

/-- Texts for the log are logged up to a failure. -/
def logRemarks : List (Except Failure String) → Run Unit
  | [] => pure ()
  | remark :: rest => do
    let text ← Run.ofExcept remark
    Run.log .warning text
    logRemarks rest

/-- The table of a file of rules, read by a reader of documents; a value that counts as absent is
an empty table. -/
def readTable (read : List Char → Except Yaml.Failure Value) (disk : Disk) (file : Path) :
    Except Failure Table :=
  match disk.readText file with
  | .error (.unreachable path fault) => .error (.config (.unreadableRules path fault))
  | .error (.undecodable failure) => .error (.undecodable failure)
  | .ok text =>
    match read text with
    | .error (.malformed flaw) => .error (.config (.malformedRules file flaw))
    | .error failure => .error (.value failure)
    | .ok v =>
      match v.orElse (.table []) with
      | .table entries => .ok entries
      | _ => .error (.config (.noRuleTable file))

/-- The tables that a document describes, with what is said on the way. -/
def build (fault? : String → Option Pattern.Fault) (entries : Table) : Run RuleTables := do
  logRemarks (remarks fault? entries)
  return ofTableWith (fun s => (fault? s).isNone) entries

/-- The rule tables of a file, or the standard ones, given a reader of documents and what is wrong
with a pattern. -/
def loadWith (read : List Char → Except Yaml.Failure Value)
    (fault? : String → Option Pattern.Fault) (disk : Disk) : Option Path → Run RuleTables
  | none => pure standard
  | some file => do
    let entries ← Run.ofExcept (readTable read disk file)
    build fault? entries

/-- The rule tables of a file, or the standard ones. -/
def load (disk : Disk) (file : Option Path) : Run RuleTables :=
  loadWith Yaml.read Pattern.fault? disk file

/-- Where no file is named the standard tables apply. -/
@[simp] theorem load_none (disk : Disk) : (load disk none).result = .ok standard := rfl

/-- What is built from a document are the tables that it describes. -/
theorem eq_ofTable_of_build {entries : Table} {tables : RuleTables}
    (h : (build Pattern.fault? entries).result = .ok tables) : tables = ofTable entries := by
  have hpattern : (fun s => (Pattern.fault? s).isNone) = Pattern.isWellFormed :=
    funext Pattern.isNone_fault?
  rw [build, Run.result_bind, hpattern] at h
  cases hlog : (logRemarks (remarks Pattern.fault? entries)).result with
  | error failure =>
    rw [hlog] at h
    cases h
  | ok _ =>
    rw [hlog] at h
    exact (Except.ok.inj h).symm

end RuleTables

end PackageLint
