import Mathlib
import PackageLint.Proofs.Rules.Entry

/-!
# Rule tables of a document

Building tables from a document takes the entries that describe a rule and drops all others. So the
tables of a document are those of the document without its invalid entries and without the gates
that guard no rule. What is taken is complete: every rule has the severity that its kind asks for,
every gate has a marker and a rule, and the vocabulary has no empty token.

## Main definitions

* `Source.Vocabulary.IsComplete`: no trigger and no list of tokens is empty;
* `RuleTables.withoutInvalid`: a document without its invalid entries;
* `RuleTables.IsReadFrom`: tables hold what the entries of a document describe;
* `RuleTables.IsComplete`: what holds of tables that were built from a document.

## Main results

* `RuleTables.ofTableWith_withoutInvalid`: invalid entries do not matter;
* `RuleTables.isReadFrom_ofTableWith`: entries are read one by one, in order;
* `RuleTables.isComplete_ofTableWith`: what is built is complete;
* `RuleTables.IsReadFrom.count_eq`: the number of rules;
* `RuleTables.isReadFrom_and_isComplete_ofTableWith`: what a document gives.
-/

namespace PackageLint

/-! ## The vocabulary -/

namespace Source.Vocabulary

/-- The lists of tokens of a vocabulary. -/
def tokenLists (vocabulary : Vocabulary) : List (List String) :=
  [vocabulary.wrapperTokens, vocabulary.componentLiterals, vocabulary.conditionalPrefixes,
    vocabulary.ternaryMarkers, vocabulary.branchPrefixes]

/-- No trigger of a vocabulary is empty, and no list of tokens is empty or holds an empty one. -/
structure IsComplete (vocabulary : Vocabulary) : Prop where
  bodyTrigger_ne : vocabulary.bodyTrigger ≠ ""
  builderTrigger_ne : vocabulary.builderTrigger ≠ ""
  groupingToken_ne : vocabulary.groupingToken ≠ ""
  tokens : ∀ tokens ∈ vocabulary.tokenLists, tokens ≠ [] ∧ "" ∉ tokens

/-- A list of tokens that is read holds no empty one where its default holds none. -/
theorem empty_notMem_tokens (v : Value) {default : List String} (h : "" ∉ default) :
    "" ∉ tokens v default := by
  unfold tokens
  split
  · exact h
  · rename_i found _
    intro hmem
    obtain ⟨item, -, hitem⟩ := List.mem_filterMap.1 hmem
    exact (Value.nonemptyText?_eq_some_iff.1 hitem).2 rfl

/-- The vocabulary that applies where a document has none is complete. -/
theorem isComplete_standard : IsComplete {} where
  bodyTrigger_ne := by decide
  builderTrigger_ne := by decide
  groupingToken_ne := by decide
  tokens := by decide

/-- The vocabulary of a document is complete. -/
theorem isComplete_ofValue (isPattern : String → Bool) (v : Value) :
    IsComplete (ofValue isPattern v) := by
  cases v with
  | table entries =>
    have hstandard := isComplete_standard
    have htokens : ∀ (key : String) (default : List String), default ≠ [] ∧ "" ∉ default →
        tokens (Table.get entries key) default ≠ [] ∧ "" ∉ tokens (Table.get entries key) default :=
      fun key default h => ⟨tokens_ne_nil _ h.1, empty_notMem_tokens _ h.2⟩
    constructor
    · exact Value.getD_nonemptyText?_ne_empty _ hstandard.bodyTrigger_ne
    · exact Value.getD_nonemptyText?_ne_empty _ hstandard.builderTrigger_ne
    · exact Value.getD_nonemptyText?_ne_empty _ hstandard.groupingToken_ne
    · have hdefaults := hstandard.tokens
      simp only [tokenLists, List.forall_mem_cons] at hdefaults ⊢
      obtain ⟨hwrapper, hliterals, hprefixes, hmarkers, hbranches, -⟩ := hdefaults
      exact ⟨htokens _ _ hwrapper, htokens _ _ hliterals, htokens _ _ hprefixes,
        htokens _ _ hmarkers, htokens _ _ hbranches, by simp⟩
  | _ => exact isComplete_standard

end Source.Vocabulary

/-! ## All tables -/

namespace RuleTables

/-- The entries of a document that describe gates. -/
def gateEntriesOf (isPattern : String → Bool) (v : Value) : List Value :=
  v.items.filter (Gate.isEntry isPattern)

/-- A list of gates without the entries that describe no rule and without the gates that guard
none. -/
def gatesWithoutInvalid (isPattern : String → Bool) : Value → Value
  | .list items => .list ((items.filter (Gate.isEntry isPattern)).map (Gate.withoutInvalid isPattern))
  | v => v

/-- A document without the entries that describe no rule and without the gates that guard none. -/
def withoutInvalid (isPattern : String → Bool) (entries : Table) : Table :=
  let rules : Value → Value := (·.keepItems (Rule.isEntry isPattern))
  (((entries.change "deprecated" rules).change "anti_patterns" rules).change "required" rules).change
    "contextual" (gatesWithoutInvalid isPattern)

/-- The tables hold the rules and gates that the entries of a document describe, one by one. -/
structure IsReadFrom (isPattern : String → Bool) (entries : Table) (tables : RuleTables) : Prop where
  deprecated : List.Forall₂ (Rule.IsReadFrom isPattern .deprecated)
    (Rule.entriesOf isPattern (Table.get entries "deprecated")) tables.deprecated
  antiPatterns : List.Forall₂ (Rule.IsReadFrom isPattern .antiPattern)
    (Rule.entriesOf isPattern (Table.get entries "anti_patterns")) tables.antiPatterns
  required : List.Forall₂ (Rule.IsReadFrom isPattern .required)
    (Rule.entriesOf isPattern (Table.get entries "required")) tables.required
  contextual : List.Forall₂ (Gate.IsReadFrom isPattern)
    (gateEntriesOf isPattern (Table.get entries "contextual")) tables.contextual

/-- Every rule has the severity that its kind asks for, every gate has a marker and a rule, and the
vocabulary is complete. -/
structure IsComplete (tables : RuleTables) : Prop where
  deprecated : ∀ rule ∈ tables.deprecated, rule.severity = some .error
  antiPatterns : ∀ rule ∈ tables.antiPatterns, ∃ severity, rule.severity = some severity
  required : ∀ rule ∈ tables.required, rule.severity = none
  contextual : ∀ gate ∈ tables.contextual, gate.marker ≠ "" ∧ gate.rules ≠ [] ∧
    ∀ rule ∈ gate.rules, ∃ severity, rule.severity = some severity
  vocabulary : tables.vocabulary.IsComplete

variable (isPattern : String → Bool) (entries : Table)

/-- What a gate list gives does not depend on invalid entries. -/
theorem filterMap_items_gatesWithoutInvalid (v : Value) :
    (gatesWithoutInvalid isPattern v).items.filterMap (Gate.ofValue? isPattern) =
      v.items.filterMap (Gate.ofValue? isPattern) := by
  cases v with
  | list items =>
    rw [gatesWithoutInvalid, Value.items_list, Value.items_list, List.filterMap_map,
      ← filterMap_filter_of_isSome (Gate.isSome_ofValue? isPattern) items]
    exact List.filterMap_congr fun item _ => Gate.ofValue?_withoutInvalid isPattern item
  | _ => rfl

/-- What a document without its invalid entries holds under a key. -/
theorem get_withoutInvalid (key : String) :
    Table.get (withoutInvalid isPattern entries) key =
      if key = "contextual" then gatesWithoutInvalid isPattern (Table.get entries key)
      else if key ∈ ["required", "anti_patterns", "deprecated"] then
        (Table.get entries key).keepItems (Rule.isEntry isPattern)
      else Table.get entries key := by
  have hrules : Value.keepItems (Rule.isEntry isPattern) .null = .null := rfl
  have hgates : gatesWithoutInvalid isPattern .null = .null := rfl
  rw [withoutInvalid, Table.get_change hgates, Table.get_change hrules, Table.get_change hrules,
    Table.get_change hrules]
  by_cases hcontextual : key = "contextual"
  · subst hcontextual
    rfl
  · simp only [if_neg hcontextual, List.mem_cons, List.not_mem_nil, or_false]
    split_ifs <;> simp_all

/-- The tables of a document are those of the document without its invalid entries. -/
theorem ofTableWith_withoutInvalid :
    ofTableWith isPattern (withoutInvalid isPattern entries) = ofTableWith isPattern entries := by
  simp [ofTableWith, get_withoutInvalid, Rule.ofList_keepItems,
    filterMap_items_gatesWithoutInvalid]

/-- The rules and gates of a document are read one by one. -/
theorem isReadFrom_ofTableWith : (ofTableWith isPattern entries).IsReadFrom isPattern entries where
  deprecated := Rule.forall₂_isReadFrom isPattern .deprecated _
  antiPatterns := Rule.forall₂_isReadFrom isPattern .antiPattern _
  required := Rule.forall₂_isReadFrom isPattern .required _
  contextual :=
    (forall₂_filter_filterMap (Gate.isSome_ofValue? isPattern) _).imp
      fun _ _ h => Gate.isReadFrom_of_ofValue?_eq_some h

/-- Nothing that is read from a document is left half done. -/
theorem isComplete_ofTableWith : (ofTableWith isPattern entries).IsComplete where
  deprecated rule hrule := by
    obtain ⟨entry, hseverity⟩ := Rule.exists_severity_of_mem_ofList hrule
    exact hseverity
  antiPatterns rule hrule := by
    obtain ⟨entry, hseverity⟩ := Rule.exists_severity_of_mem_ofList hrule
    exact ⟨_, hseverity⟩
  required rule hrule := by
    obtain ⟨entry, hseverity⟩ := Rule.exists_severity_of_mem_ofList hrule
    exact hseverity
  contextual gate hgate := by
    obtain ⟨item, -, hitem⟩ := List.mem_filterMap.1 hgate
    refine ⟨Gate.marker_ne_empty_of_ofValue?_eq_some hitem, ?_⟩
    obtain ⟨entry, -, -, hrules, hne⟩ := Gate.ofValue?_eq_some_iff.1 hitem
    refine ⟨hne, fun rule hrule => ?_⟩
    rw [hrules] at hrule
    obtain ⟨entry, hseverity⟩ := Rule.exists_severity_of_mem_ofList hrule
    exact ⟨_, hseverity⟩
  vocabulary := Source.Vocabulary.isComplete_ofValue isPattern _

/-- Lists that are related one by one give lists of the same length, if their elements do. -/
theorem length_flatMap_of_forall₂ {α β γ δ : Type} {R : α → β → Prop} {f : α → List γ}
    {g : β → List δ} {xs : List α} {ys : List β} (h : List.Forall₂ R xs ys)
    (hlength : ∀ x y, R x y → (f x).length = (g y).length) :
    (xs.flatMap f).length = (ys.flatMap g).length := by
  induction h with
  | nil => rfl
  | cons hxy _ ih => rw [List.flatMap_cons, List.flatMap_cons, List.length_append,
      List.length_append, hlength _ _ hxy, ih]

variable {isPattern entries}

/-- Tables hold as many rules as entries of their document describe one. -/
theorem IsReadFrom.count_eq {tables : RuleTables} (h : tables.IsReadFrom isPattern entries) :
    tables.count =
      (Rule.entriesOf isPattern (Table.get entries "deprecated")).length +
      (Rule.entriesOf isPattern (Table.get entries "anti_patterns")).length +
      (Rule.entriesOf isPattern (Table.get entries "required")).length +
      ((gateEntriesOf isPattern (Table.get entries "contextual")).flatMap
        (Gate.entriesOf isPattern)).length := by
  have hcontextual := length_flatMap_of_forall₂ h.contextual
    (f := Gate.entriesOf isPattern) (g := (·.rules)) fun v gate hgate => by
      obtain ⟨entry, -, -, hrules⟩ := hgate
      exact hrules.length_eq
  rw [count, h.deprecated.length_eq, h.antiPatterns.length_eq, h.required.length_eq, hcontextual]

/-- Building the tables of a document drops its invalid entries as if they were not there. The
tables hold the other ones in the order of the document, each with all its fields, they are
complete, and their number is that of the entries that are left. -/
theorem isReadFrom_and_isComplete_ofTableWith (isPattern : String → Bool) (entries : Table) :
    ofTableWith isPattern (withoutInvalid isPattern entries) = ofTableWith isPattern entries ∧
    (ofTableWith isPattern entries).IsReadFrom isPattern entries ∧
    (ofTableWith isPattern entries).IsComplete ∧
    (ofTableWith isPattern entries).count =
      (Rule.entriesOf isPattern (Table.get entries "deprecated")).length +
      (Rule.entriesOf isPattern (Table.get entries "anti_patterns")).length +
      (Rule.entriesOf isPattern (Table.get entries "required")).length +
      ((gateEntriesOf isPattern (Table.get entries "contextual")).flatMap
        (Gate.entriesOf isPattern)).length := by
  have hread := isReadFrom_ofTableWith isPattern entries
  exact ⟨ofTableWith_withoutInvalid isPattern entries, hread,
    isComplete_ofTableWith isPattern entries, hread.count_eq⟩

/-- An entry with a pattern and a message. -/
def ruleEntry (pattern : String) : Value :=
  .ofFields [("pattern", .text pattern), ("message", .text "Doubtful")]

/-- A document with a number among its rules, with something that is no pattern, with a gate that
guards no rule, and with another one that names no marker. -/
def roughDocument : Table := [
  (.text "deprecated", .list [ruleEntry "Date", .int 5]),
  (.text "anti_patterns", .list [ruleEntry "("]),
  (.text "contextual", .list [.ofFields [("rules", .list [ruleEntry "("])],
    .ofFields [("rules", .list [ruleEntry "item", .null])]])]

/-- What is left of the document are a rule and a gate with a rule. -/
theorem isReadFrom_and_isComplete_ofTableWith_roughDocument :
    let tables := ofTableWith (· ≠ "(") roughDocument
    withoutInvalid (· ≠ "(") roughDocument = [
      (.text "deprecated", .list [ruleEntry "Date"]), (.text "anti_patterns", .list []),
      (.text "contextual", .list [.ofFields [("rules", .list [ruleEntry "item"])]])] ∧
    ofTableWith (· ≠ "(") (withoutInvalid (· ≠ "(") roughDocument) = tables ∧
    tables.count = 2 ∧ tables.contextual.map (·.marker) = [".sheet("] ∧ tables.IsComplete := by
  intro tables
  obtain ⟨hwithout, -, hcomplete, hcount⟩ :=
    isReadFrom_and_isComplete_ofTableWith (· ≠ "(") roughDocument
  exact ⟨rfl, hwithout, hcount.trans rfl, rfl, hcomplete⟩

end RuleTables

end PackageLint
