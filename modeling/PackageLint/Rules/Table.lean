import PackageLint.Diagnostic.Basic
import PackageLint.Source.Vocabulary

/-!
# Rule tables

A rule is a pattern with a message; a table holds the rules of one kind in order. Contextual rules
stand behind a gate, a marker that has to occur in a text before they apply. Tables are built from
a document; entries that are no rules are dropped, and every other field falls back to a default
when it has the wrong kind.

## Main results

* `Source.Vocabulary.tokens_ne_nil`: a vocabulary never loses all tokens of a kind.
-/

namespace PackageLint

/-- What a rule is for. -/
inductive RuleKind
  /-- Code that is out of date. -/
  | deprecated
  /-- Code that should be written in another way. -/
  | antiPattern
  /-- Code that deserves praise. -/
  | required
  /-- Code that is doubtful next to a marker. -/
  | contextual
  deriving DecidableEq, Repr

/-- The name of a kind of rule. -/
def RuleKind.name : RuleKind → String
  | deprecated => "deprecated"
  | antiPattern => "anti-pattern"
  | required => "required"
  | contextual => "contextual"

/-- A pattern with its message. -/
structure Rule where
  /-- The text of the pattern. -/
  pattern : String
  /-- What is said where the pattern is found. -/
  message : String
  /-- What the rule is for. -/
  kind : RuleKind
  /-- Where more is to be read. -/
  reference : Option String := none
  /-- How bad a find is; praise has no severity. -/
  severity : Option Severity := none
  deriving DecidableEq, Repr

/-- Rules that apply only to texts with a marker. -/
structure Gate where
  /-- What has to occur in the text. -/
  marker : String
  /-- The rules behind the gate. -/
  rules : List Rule
  deriving DecidableEq, Repr

/-- All rules, and the vocabulary of the composition checks. -/
structure RuleTables where
  /-- Rules for code that is out of date. -/
  deprecated : List Rule := []
  /-- Rules for code that should be written in another way. -/
  antiPatterns : List Rule := []
  /-- Rules for code that deserves praise. -/
  required : List Rule := []
  /-- Rules that depend on a marker. -/
  contextual : List Gate := []
  /-- The tokens of the composition checks. -/
  vocabulary : Source.Vocabulary := {}

namespace RuleTables

/-- The number of rules in all tables. -/
def count (tables : RuleTables) : Nat :=
  tables.deprecated.length + tables.antiPatterns.length + tables.required.length +
    (tables.contextual.flatMap (·.rules)).length

end RuleTables

namespace Rule

/-- The severity of a rule of a kind whose entry is given: fixed for code that is out of date, none
for praise, and else as written, an error where nothing is written. -/
def severityOf (kind : RuleKind) (entry : Table) : Option Severity :=
  match kind with
  | .deprecated => some .error
  | .required => none
  | _ => some (.ofValue ((Table.find? entry (.text "severity")).getD (.text "error")))

/-- The pattern and the message of an entry, if it has both. -/
def essentials? (entry : Table) : Option (String × String) :=
  match (Table.get entry "pattern").nonemptyText?, (Table.get entry "message").text? with
  | some pattern, some message => some (pattern, message)
  | _, _ => none

/-- The rule that an entry of a document describes. `isPattern` tells the texts that are
patterns. -/
def ofValue? (isPattern : String → Bool) (kind : RuleKind) (v : Value) : Option Rule :=
  match v with
  | .table entry =>
    match essentials? entry with
    | some (pattern, message) =>
      if isPattern pattern then some {
        pattern, message, kind
        reference := (Table.get entry "reference").text?
        severity := severityOf kind entry }
      else none
    | none => none
  | _ => none

/-- The rules of a list, without the entries that describe none. -/
def ofList (isPattern : String → Bool) (kind : RuleKind) (v : Value) : List Rule :=
  v.items.filterMap (ofValue? isPattern kind)

end Rule

/-- The marker of a gate that names none. -/
def Gate.standardMarker : String := ".sheet("

/-- The gate that an entry of a document describes; a gate without rules is none. -/
def Gate.ofValue? (isPattern : String → Bool) (v : Value) : Option Gate :=
  match v with
  | .table entry =>
    let rules := Rule.ofList isPattern .contextual (Table.get entry "rules")
    -- A gate with nothing behind it is of no use.
    if rules.isEmpty then none
    else some { marker := (Table.get entry "marker").nonemptyText?.getD standardMarker, rules }
  | _ => none

namespace Source.Vocabulary

/-- The texts of a list that are not empty, or the default where there are none. -/
def tokens (v : Value) (default : List String) : List String :=
  match v.items.filterMap Value.nonemptyText? with
  | [] => default
  | found => found

/-- The vocabulary that a table of a document describes. -/
def ofTable (isPattern : String → Bool) (entries : Table) : Vocabulary :=
  let standard : Vocabulary := {}
  let word (key : String) (default : String) : String :=
    (Table.get entries key).nonemptyText?.getD default
  let list (key : String) (default : List String) : List String :=
    tokens (Table.get entries key) default
  { bodyTrigger := word "body_trigger" standard.bodyTrigger
    builderTrigger := word "builder_trigger" standard.builderTrigger
    groupingToken := word "grouping_token" standard.groupingToken
    wrapperTokens := list "wrapper_tokens" standard.wrapperTokens
    componentLiterals := list "component_literals" standard.componentLiterals
    componentPattern :=
      ((Table.get entries "component_pattern").nonemptyText?.filter isPattern).getD
        standard.componentPattern
    conditionalPrefixes := list "conditional_prefixes" standard.conditionalPrefixes
    ternaryMarkers := list "ternary_markers" standard.ternaryMarkers
    branchPrefixes := list "branch_prefixes" standard.branchPrefixes }

/-- The vocabulary that a value of a document describes. -/
def ofValue (isPattern : String → Bool) : Value → Vocabulary
  | .table entries => ofTable isPattern entries
  | _ => {}

/-- A list of tokens is never empty where its default is not. -/
theorem tokens_ne_nil (v : Value) {default : List String} (h : default ≠ []) :
    tokens v default ≠ [] := by
  unfold tokens
  split <;> simp_all

end Source.Vocabulary

namespace RuleTables

/-- The tables that a document describes, given which texts are patterns. -/
def ofTableWith (isPattern : String → Bool) (entries : Table) : RuleTables where
  deprecated := Rule.ofList isPattern .deprecated (Table.get entries "deprecated")
  antiPatterns := Rule.ofList isPattern .antiPattern (Table.get entries "anti_patterns")
  required := Rule.ofList isPattern .required (Table.get entries "required")
  contextual := (Table.get entries "contextual").items.filterMap (Gate.ofValue? isPattern)
  vocabulary := .ofValue isPattern (Table.get entries "composition")

/-- The tables that a document describes. -/
def ofTable (entries : Table) : RuleTables := ofTableWith Pattern.isWellFormed entries

/-- The tables with another meaning of the pattern for components. -/
def withMeaning (finds : String → List Char → Bool) (tables : RuleTables) : RuleTables :=
  { tables with
    vocabulary := { tables.vocabulary with
      isComponentCall := finds tables.vocabulary.componentPattern } }

end RuleTables

end PackageLint
