import Mathlib
import PackageLint.Document.Distinct
import PackageLint.Rules.Evaluation

/-!
# Which rules are reported

Trying the tables on a text reports the rules that apply and are found, in the order of the tables,
equal rules once. Whether a rule is reported depends on no other rule: the memory of what has been
reported drops repetitions and nothing else.

## Main definitions

* `RuleTables.applicable`: the rules that can be reported for a text, in the order of the tables;
* `RuleSearch.HasTried`: the state of a search after some rules have been found.

## Main results

* `RuleSearch.HasTried.report`, `RuleSearch.HasTried.praise`: what one rule does to the state;
* `RuleSearch.tryTable_induction`: what a table does, given what one rule does;
* `RuleTables.hasTried_searchWith`: the state after all tables;
* `RuleTables.mem_reported_iff`: when a rule is reported;
* `RuleTables.evaluateWith_eq`: what is said of a text.
-/

namespace PackageLint

/-- The rules that can be reported for a text, in the order of the tables. -/
def RuleTables.applicable (tables : RuleTables) (text : List Char) : List Rule :=
  tables.deprecated ++ tables.antiPatterns ++
    (tables.contextual.filter (·.isOpen text)).flatMap (·.rules)

namespace RuleSearch

/-- A search has found some rules to report and some to praise: of the former equal ones have been
reported once, of the latter each has been praised. -/
structure HasTried (file : Option String) (toReport toPraise : List Rule) (search : RuleSearch) :
    Prop where
  reported : search.reported = distinct toReport
  issues : search.findings.issues = (distinct toReport).map (.ofRule file)
  positives : search.findings.positives = toPraise.map (·.message)

variable {file : Option String} {toReport toPraise : List Rule} {search : RuleSearch}

/-- Nothing has been found before the first rule. -/
theorem hasTried_nil : HasTried file [] [] {} := ⟨rfl, rfl, rfl⟩

/-- Reporting a rule adds it to the rules that have been found. -/
theorem HasTried.report (h : HasTried file toReport toPraise search) (rule : Rule) :
    HasTried file (toReport ++ [rule]) toPraise (search.report file rule) := by
  -- The memory holds each rule once, so it knows the same rules as the list with repetitions.
  have hmem : rule ∈ search.reported ↔ rule ∈ toReport := by rw [h.reported, mem_distinct]
  unfold RuleSearch.report
  by_cases hknown : rule ∈ toReport
  · rw [if_pos (hmem.2 hknown)]
    constructor
    · rw [h.reported, distinct_append_singleton, if_pos hknown]
    · rw [h.issues, distinct_append_singleton, if_pos hknown]
    · exact h.positives
  · rw [if_neg (hmem.not.2 hknown)]
    constructor
    · rw [h.reported, distinct_append_singleton, if_neg hknown]
    · rw [h.issues, distinct_append_singleton, if_neg hknown, List.map_append, List.map_singleton]
    · exact h.positives

/-- Praising a rule leaves what has been reported alone. -/
theorem HasTried.praise (h : HasTried file toReport toPraise search) (rule : Rule) :
    HasTried file toReport (toPraise ++ [rule]) (search.praise rule) := by
  refine ⟨h.reported, h.issues, ?_⟩
  rw [RuleSearch.praise, h.positives, List.map_append, List.map_singleton]

variable (holds : Rule → Bool)

/-- What one rule after the other does to a state, the rules of a table that hold do to it. -/
theorem tryTable_induction {note : RuleSearch → Rule → RuleSearch}
    {P : List Rule → RuleSearch → Prop}
    (hstep : ∀ done search rule, P done search → P (done ++ [rule]) (note search rule))
    {done : List Rule} (h : P done search) (rules : List Rule) :
    P (done ++ rules.filter holds) (search.tryTable holds note rules) := by
  -- The rules that do not hold leave the state alone, so the fold is one over those that do.
  rw [tryTable, ← List.foldl_filter]
  induction rules.filter holds generalizing done search with
  | nil => simpa using h
  | cons rule rest ih =>
    rw [List.foldl_cons, List.append_cons]
    exact ih (hstep done search rule h)

/-- A table of rules to report adds those that hold, in their order. -/
theorem HasTried.tryTable_report (h : HasTried file toReport toPraise search)
    (rules : List Rule) :
    HasTried file (toReport ++ rules.filter holds) toPraise
      (search.tryTable holds (RuleSearch.report file) rules) :=
  tryTable_induction (P := fun done => HasTried file done toPraise)
    holds (fun _ _ rule hdone => hdone.report rule) h rules

/-- A table of rules to praise adds those that hold, in their order. -/
theorem HasTried.tryTable_praise (h : HasTried file toReport toPraise search)
    (rules : List Rule) :
    HasTried file toReport (toPraise ++ rules.filter holds)
      (search.tryTable holds RuleSearch.praise rules) :=
  tryTable_induction (P := HasTried file toReport) holds
    (fun _ _ rule hdone => hdone.praise rule) h rules

/-- Gates add the rules that hold behind those of them that are open. -/
theorem HasTried.foldl_tryGate (h : HasTried file toReport toPraise search) (text : List Char)
    (gates : List Gate) :
    HasTried file
      (toReport ++ ((gates.filter (·.isOpen text)).flatMap (·.rules)).filter holds) toPraise
      (gates.foldl (tryGate holds file text) search) := by
  induction gates generalizing toReport search with
  | nil => simpa using h
  | cons gate gates ih =>
    rw [List.foldl_cons, tryGate]
    cases hopen : gate.isOpen text with
    | true =>
      rw [if_pos rfl, List.filter_cons, if_pos hopen, List.flatMap_cons, List.filter_append,
        ← List.append_assoc]
      exact ih (h.tryTable_report holds gate.rules)
    | false =>
      rw [if_neg Bool.false_ne_true, List.filter_cons, hopen, if_neg Bool.false_ne_true]
      exact ih h

end RuleSearch

namespace RuleTables

variable (found : Rule → List Char → Bool) (tables : RuleTables) (text : List Char)
  (file : Option String)

/-- A search through all tables has found the rules that apply and hold. -/
theorem hasTried_searchWith :
    RuleSearch.HasTried file ((tables.applicable text).filter (found · text))
      (tables.required.filter (found · text)) (tables.searchWith found text file) := by
  have hstart : RuleSearch.HasTried file [] [] {} := RuleSearch.hasTried_nil
  have hdeprecated := hstart.tryTable_report (found · text) tables.deprecated
  have hantiPatterns := hdeprecated.tryTable_report (found · text) tables.antiPatterns
  have hrequired := hantiPatterns.tryTable_praise (found · text) tables.required
  have hcontextual := hrequired.foldl_tryGate (found · text) text tables.contextual
  rw [applicable, List.filter_append, List.filter_append]
  exact hcontextual

variable {found tables text file}

/-- A rule is reported if it is found and stands in a table that applies. -/
theorem mem_reported_iff {rule : Rule} :
    rule ∈ (tables.searchWith found text file).reported ↔
      found rule text = true ∧
        (rule ∈ tables.deprecated ∨ rule ∈ tables.antiPatterns ∨
          ∃ gate ∈ tables.contextual, gate.marker.toList <:+: text ∧ rule ∈ gate.rules) := by
  rw [(hasTried_searchWith found tables text file).reported, mem_distinct, List.mem_filter,
    applicable, List.mem_append, List.mem_append, List.mem_flatMap]
  simp only [List.mem_filter, Gate.isOpen_iff]
  tauto

/-- Every rule that applies to a text and is found in it is reported, in the order of the tables and
equal ones once, and every rule to praise that is found is praised. A rule is reported if it is
found itself, whatever other rules are. -/
theorem evaluateWith_eq (found : Rule → List Char → Bool) (tables : RuleTables) (text : List Char)
    (file : Option String) :
    tables.evaluateWith found text file = {
      issues := (tables.searchWith found text file).reported.map (.ofRule file)
      positives := (tables.required.filter (found · text)).map (·.message) } ∧
    (tables.searchWith found text file).reported =
      distinct ((tables.applicable text).filter (found · text)) ∧
    (tables.searchWith found text file).reported.Nodup ∧
    (∀ rule, rule ∈ (tables.searchWith found text file).reported ↔
      found rule text = true ∧
        (rule ∈ tables.deprecated ∨ rule ∈ tables.antiPatterns ∨
          ∃ gate ∈ tables.contextual, gate.marker.toList <:+: text ∧ rule ∈ gate.rules)) ∧
    ∀ (other : Rule → List Char → Bool) (rule : Rule), other rule text = found rule text →
      (rule ∈ (tables.searchWith other text file).reported ↔
        rule ∈ (tables.searchWith found text file).reported) := by
  -- All of it can be told from what the search has tried.
  have htried := hasTried_searchWith found tables text file
  refine ⟨?_, htried.reported, ?_, fun rule => mem_reported_iff, fun other rule h => ?_⟩
  · rw [evaluateWith, htried.reported, ← htried.issues, ← htried.positives]
  · rw [htried.reported]
    exact nodup_distinct _
  · rw [mem_reported_iff, mem_reported_iff, h]

/-- A rule that a word is doubtful. -/
def wordRule (word : String) : Rule :=
  { pattern := word, message := "Doubtful", kind := .antiPattern, severity := some .warning }

/-- Tables in which a rule and a praise stand twice, with a rule that stands behind a gate as
well. -/
def repetitiveTables : RuleTables where
  antiPatterns := [wordRule "Shared", wordRule "Date", wordRule "Shared"]
  required := List.replicate 2 { pattern := "@Reducer", message := "Modern", kind := .required }
  contextual := [⟨".sheet(", [wordRule "Shared", wordRule "item"]⟩, ⟨".alert(", [wordRule "x"]⟩]

/-- Each rule that applies and is found is reported once, the praise is said twice, and the rule
behind the gate that stays closed is not tried. Finding another rule as well does not drop one. -/
theorem evaluateWith_eq_repetitiveTables :
    let found (rule : Rule) (text : List Char) : Bool := Text.occursIn rule.pattern.toList text
    let text := "@Reducer Shared(x).sheet(item)".toList
    (repetitiveTables.searchWith found text none).reported = [wordRule "Shared", wordRule "item"] ∧
    repetitiveTables.evaluateWith found text none = {
      issues := [.ofRule none (wordRule "Shared"), .ofRule none (wordRule "item")]
      positives := ["Modern", "Modern"] } ∧
    wordRule "item" ∈ (repetitiveTables.searchWith
      (fun rule text => found rule text || rule = wordRule "Date") text none).reported := by
  intro found text
  obtain ⟨hfindings, hreported, -, -, hother⟩ := evaluateWith_eq found repetitiveTables text none
  have hrules : distinct ((repetitiveTables.applicable text).filter (found · text)) =
      [wordRule "Shared", wordRule "item"] := by
    decide +kernel
  have hpraise : (repetitiveTables.required.filter (found · text)).map (·.message) =
      ["Modern", "Modern"] := by
    decide +kernel
  rw [hrules] at hreported
  rw [hreported, hpraise] at hfindings
  refine ⟨hreported, hfindings, (hother _ _ ?_).2 ?_⟩
  · decide +kernel
  · rw [hreported]
    exact List.mem_cons_of_mem _ List.mem_cons_self

end RuleTables

end PackageLint
