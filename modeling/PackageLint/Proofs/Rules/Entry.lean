import Mathlib
import PackageLint.Rules.Table

/-!
# Entries of a rule document

Which values of a document describe a rule or a gate, and what is read from them. A rule is a table
with a pattern and a message; everything else in it falls back to a default. A gate is a table with
a list in which some value describes a rule. Other values give nothing, whatever shape they have, so
they can be left out.

## Main definitions

* `Rule.isEntry`, `Gate.isEntry`: a value describes a rule or a gate;
* `Rule.IsReadFrom`, `Gate.IsReadFrom`: a rule or a gate is, with all its fields, the one that a
  value describes.

## Main results

* `Rule.ofValue?_eq_some_iff`, `Gate.ofValue?_eq_some_iff`: what a value gives;
* `Rule.forall₂_isReadFrom`: the entries of a list are read one by one, in order;
* `Rule.ofList_keepItems`, `Gate.ofValue?_withoutInvalid`: other values can be left out.
-/

namespace PackageLint

/-! ## Changing what a document holds under a key -/

/-- The table with the values under a key changed. -/
def Table.change (key : String) (f : Value → Value) (entries : Table) : Table :=
  entries.map fun entry => if entry.1 = .text key then (entry.1, f entry.2) else entry

/-- The value with some of its items left out, if it is a list. -/
def Value.keepItems (keep : Value → Bool) : Value → Value
  | .list items => .list (items.filter keep)
  | v => v

@[simp] theorem Value.items_keepItems (keep : Value → Bool) (v : Value) :
    (v.keepItems keep).items = v.items.filter keep := by
  cases v <;> rfl

/-- What a table holds under a key after the values under some key have been changed; a value that
is not there stays away. -/
theorem Table.get_change {f : Value → Value} (hnull : f .null = .null) (key other : String)
    (entries : Table) :
    get (change key f entries) other =
      if other = key then f (get entries other) else get entries other := by
  induction entries with
  | nil =>
    change Value.null = if other = key then f .null else .null
    rw [hnull, ite_self]
  | cons entry rest ih =>
    obtain ⟨k, v⟩ := entry
    have hcons : change key f ((k, v) :: rest) =
        (if k = .text key then (k, f v) else (k, v)) :: change key f rest := rfl
    -- The first entry decides what is under its key, changed or not.
    by_cases hk : k = .text key
    · subst hk
      rw [hcons, if_pos rfl, get_cons, get_cons, ih]
      by_cases hother : other = key
      · simp [hother]
      · have hne : Scalar.text key ≠ .text other := fun h => hother (Scalar.text.inj h).symm
        rw [if_neg hne, if_neg hne]
    · rw [hcons, if_neg hk, get_cons, get_cons, ih]
      by_cases hother : other = key
      · subst hother
        rw [if_pos rfl, if_neg hk, if_neg hk, if_pos rfl]
      · rw [if_neg hother, if_neg hother]

/-! ## Reading the items of a list one by one -/

section FilterMap

variable {α β : Type} {f : α → Option β} {keep : α → Bool}

/-- What is kept is read one by one, where exactly the rest gives nothing. -/
theorem forall₂_filter_filterMap (h : ∀ a, (f a).isSome = keep a) (xs : List α) :
    List.Forall₂ (fun a b => f a = some b) (xs.filter keep) (xs.filterMap f) := by
  induction xs with
  | nil => exact .nil
  | cons a xs ih =>
    cases ha : f a with
    | none =>
      have hkeep : keep a = false := by rw [← h, ha, Option.isSome_none]
      simpa [List.filter_cons, List.filterMap_cons, hkeep, ha] using ih
    | some b =>
      have hkeep : keep a = true := by rw [← h, ha, Option.isSome_some]
      simpa [List.filter_cons, List.filterMap_cons, hkeep, ha] using ih

/-- What gives nothing can be left out. -/
theorem filterMap_filter_of_isSome (h : ∀ a, (f a).isSome = keep a) (xs : List α) :
    (xs.filter keep).filterMap f = xs.filterMap f := by
  rw [List.filterMap_filter]
  refine List.filterMap_congr fun a _ => ?_
  rw [← h]
  cases f a <;> rfl

end FilterMap

variable {isPattern : String → Bool} {kind : RuleKind} {v : Value}

/-! ## Rules -/

namespace Rule

/-- The value describes a rule: it is a table with a pattern, a text that is not empty and can be
read as one, and with a message, any text. -/
def isEntry (isPattern : String → Bool) : Value → Bool
  | .table entry =>
    match Table.get entry "pattern", Table.get entry "message" with
    | .text pattern, .text _ => pattern ≠ "" && isPattern pattern
    | _, _ => false
  | _ => false

/-- The entries of a list that describe rules. -/
def entriesOf (isPattern : String → Bool) (v : Value) : List Value :=
  v.items.filter (isEntry isPattern)

/-- The rule, with all its fields, is the one of a kind that a value describes. -/
def IsReadFrom (isPattern : String → Bool) (kind : RuleKind) (v : Value) (rule : Rule) : Prop :=
  ∃ entry, v = .table entry ∧
    (Table.get entry "pattern" = .text rule.pattern ∧ rule.pattern ≠ "" ∧
      isPattern rule.pattern = true) ∧
    Table.get entry "message" = .text rule.message ∧ rule.kind = kind ∧
    rule.reference = (Table.get entry "reference").text? ∧ rule.severity = severityOf kind entry

theorem isEntry_iff :
    isEntry isPattern v = true ↔ ∃ entry pattern message, v = .table entry ∧
      (Table.get entry "pattern" = .text pattern ∧ pattern ≠ "" ∧ isPattern pattern = true) ∧
      Table.get entry "message" = .text message := by
  constructor
  · intro h
    unfold isEntry at h
    split at h
    · rename_i entry
      split at h
      · rename_i pattern message hpattern hmessage
        simp only [Bool.and_eq_true, decide_eq_true_eq] at h
        exact ⟨entry, pattern, message, rfl, ⟨hpattern, h⟩, hmessage⟩
      · cases h
    · cases h
  · rintro ⟨entry, pattern, message, rfl, ⟨hpattern, hne, hwell⟩, hmessage⟩
    simp [isEntry, hpattern, hmessage, hne, hwell]

theorem essentials?_eq_some_iff {entry : Table} {pattern message : String} :
    essentials? entry = some (pattern, message) ↔
      (Table.get entry "pattern" = .text pattern ∧ pattern ≠ "") ∧
        Table.get entry "message" = .text message := by
  rw [← Value.nonemptyText?_eq_some_iff, ← Value.text?_eq_some_iff, essentials?]
  split
  · rename_i hpattern hmessage
    simp [hpattern, hmessage]
  · rename_i hnot
    simp only [reduceCtorEq, false_iff, not_and]
    exact fun hpattern hmessage => hnot _ _ hpattern hmessage

/-- A value gives the rule that it describes, and no other one. -/
theorem ofValue?_eq_some_iff {rule : Rule} :
    ofValue? isPattern kind v = some rule ↔ IsReadFrom isPattern kind v rule := by
  constructor
  · intro h
    unfold ofValue? at h
    split at h
    · rename_i entry
      split at h
      · rename_i pattern message hessentials
        obtain ⟨⟨hpattern, hne⟩, hmessage⟩ := essentials?_eq_some_iff.1 hessentials
        split at h
        · rename_i hwell
          obtain rfl := Option.some.inj h
          exact ⟨entry, rfl, ⟨hpattern, hne, hwell⟩, hmessage, rfl, rfl, rfl⟩
        · cases h
      · cases h
    · cases h
  · rintro ⟨entry, rfl, ⟨hpattern, hne, hwell⟩, hmessage, rfl, hreference, hseverity⟩
    have hessentials := essentials?_eq_some_iff.2 ⟨⟨hpattern, hne⟩, hmessage⟩
    rw [ofValue?, hessentials]
    simp [hwell, ← hreference, ← hseverity]

/-- A value gives a rule exactly if it describes one. -/
theorem isSome_ofValue? (isPattern : String → Bool) (kind : RuleKind) (v : Value) :
    (ofValue? isPattern kind v).isSome = isEntry isPattern v := by
  rw [Bool.eq_iff_iff, Option.isSome_iff_exists, isEntry_iff]
  constructor
  · rintro ⟨rule, h⟩
    obtain ⟨entry, rfl, hpattern, hmessage, -⟩ := ofValue?_eq_some_iff.1 h
    exact ⟨entry, rule.pattern, rule.message, rfl, hpattern, hmessage⟩
  · rintro ⟨entry, pattern, message, rfl, hpattern, hmessage⟩
    let rule : Rule := {
      pattern, message, kind
      reference := (Table.get entry "reference").text?
      severity := severityOf kind entry }
    exact ⟨rule, ofValue?_eq_some_iff.2 ⟨entry, rfl, hpattern, hmessage, rfl, rfl, rfl⟩⟩

/-- The rules of a list are those that its entries describe, one by one. -/
theorem forall₂_isReadFrom (isPattern : String → Bool) (kind : RuleKind) (v : Value) :
    List.Forall₂ (IsReadFrom isPattern kind) (entriesOf isPattern v) (ofList isPattern kind v) :=
  (forall₂_filter_filterMap (isSome_ofValue? isPattern kind) v.items).imp
    fun _ _ h => ofValue?_eq_some_iff.1 h

/-- Entries that describe no rule can be left out. -/
theorem ofList_keepItems (isPattern : String → Bool) (kind : RuleKind) (v : Value) :
    ofList isPattern kind (v.keepItems (isEntry isPattern)) = ofList isPattern kind v := by
  rw [ofList, ofList, Value.items_keepItems]
  exact filterMap_filter_of_isSome (isSome_ofValue? isPattern kind) v.items

/-- There are as many rules as entries that describe one. -/
theorem length_ofList (isPattern : String → Bool) (kind : RuleKind) (v : Value) :
    (ofList isPattern kind v).length = (entriesOf isPattern v).length :=
  (forall₂_isReadFrom isPattern kind v).length_eq.symm

/-- Every rule of a list has the severity of its entry. -/
theorem exists_severity_of_mem_ofList {rule : Rule} (h : rule ∈ ofList isPattern kind v) :
    ∃ entry, rule.severity = severityOf kind entry := by
  obtain ⟨item, -, hitem⟩ := List.mem_filterMap.1 h
  obtain ⟨entry, -, -, -, -, -, hseverity⟩ := ofValue?_eq_some_iff.1 hitem
  exact ⟨entry, hseverity⟩

end Rule

/-! ## Gates -/

namespace Gate

/-- The entries behind a gate that describe rules. -/
def entriesOf (isPattern : String → Bool) : Value → List Value
  | .table entry => Rule.entriesOf isPattern (Table.get entry "rules")
  | _ => []

/-- The value describes a gate: some entry behind it describes a rule. -/
def isEntry (isPattern : String → Bool) (v : Value) : Bool := !(entriesOf isPattern v).isEmpty

/-- The gate is the one that a value describes: its marker is the text that stands there unless this
is empty, and its rules are those of the entries, one by one. -/
def IsReadFrom (isPattern : String → Bool) (v : Value) (gate : Gate) : Prop :=
  ∃ entry, v = .table entry ∧
    gate.marker = (Table.get entry "marker").nonemptyText?.getD standardMarker ∧
    List.Forall₂ (Rule.IsReadFrom isPattern .contextual) (entriesOf isPattern v) gate.rules

/-- The value of a gate without the entries behind it that describe no rule. -/
def withoutInvalid (isPattern : String → Bool) : Value → Value
  | .table entry => .table (Table.change "rules" (·.keepItems (Rule.isEntry isPattern)) entry)
  | v => v

theorem isEntry_table {entry : Table} :
    isEntry isPattern (.table entry) = true ↔
      Rule.ofList isPattern .contextual (Table.get entry "rules") ≠ [] := by
  rw [isEntry, entriesOf, ← List.length_pos_iff, Rule.length_ofList, List.length_pos_iff]
  simp

/-- A value gives the gate with the marker and the rules that it names, if there are any. -/
theorem ofValue?_eq_some_iff {gate : Gate} :
    ofValue? isPattern v = some gate ↔ ∃ entry, v = .table entry ∧
      gate.marker = (Table.get entry "marker").nonemptyText?.getD standardMarker ∧
      gate.rules = Rule.ofList isPattern .contextual (Table.get entry "rules") ∧
      gate.rules ≠ [] := by
  constructor
  · intro h
    unfold ofValue? at h
    split at h
    · rename_i entry
      simp only [Option.ite_none_left_eq_some, List.isEmpty_iff] at h
      obtain ⟨hne, hgate⟩ := h
      obtain rfl := Option.some.inj hgate
      exact ⟨entry, rfl, rfl, rfl, hne⟩
    · cases h
  · rintro ⟨entry, rfl, hmarker, hrules, hne⟩
    rw [hrules] at hne
    rw [ofValue?, if_neg (by simpa using hne), ← hmarker, ← hrules]

/-- A value gives a gate exactly if it describes one. -/
theorem isSome_ofValue? (isPattern : String → Bool) (v : Value) :
    (ofValue? isPattern v).isSome = isEntry isPattern v := by
  rw [Bool.eq_iff_iff, Option.isSome_iff_exists]
  constructor
  · rintro ⟨gate, h⟩
    obtain ⟨entry, rfl, -, hrules, hne⟩ := ofValue?_eq_some_iff.1 h
    exact isEntry_table.2 (hrules ▸ hne)
  · intro h
    cases v with
    | table entry =>
      let gate : Gate := {
        marker := (Table.get entry "marker").nonemptyText?.getD standardMarker
        rules := Rule.ofList isPattern .contextual (Table.get entry "rules") }
      exact ⟨gate, ofValue?_eq_some_iff.2 ⟨entry, rfl, rfl, rfl, isEntry_table.1 h⟩⟩
    | _ => cases h

/-- The gate that a value gives is the one that it describes. -/
theorem isReadFrom_of_ofValue?_eq_some {gate : Gate} (h : ofValue? isPattern v = some gate) :
    IsReadFrom isPattern v gate := by
  obtain ⟨entry, rfl, hmarker, hrules, -⟩ := ofValue?_eq_some_iff.1 h
  refine ⟨entry, rfl, hmarker, ?_⟩
  rw [hrules]
  exact Rule.forall₂_isReadFrom isPattern .contextual (Table.get entry "rules")

/-- Entries behind a gate that describe no rule can be left out. -/
theorem ofValue?_withoutInvalid (isPattern : String → Bool) (v : Value) :
    ofValue? isPattern (withoutInvalid isPattern v) = ofValue? isPattern v := by
  cases v with
  | table entry =>
    have hnull : Value.keepItems (Rule.isEntry isPattern) .null = .null := rfl
    have hmarker : Table.get (Table.change "rules" (·.keepItems (Rule.isEntry isPattern)) entry)
        "marker" = Table.get entry "marker" := by
      rw [Table.get_change hnull, if_neg (by decide)]
    rw [withoutInvalid, ofValue?, ofValue?, hmarker, Table.get_change hnull, if_pos rfl,
      Rule.ofList_keepItems]
  | _ => rfl

/-- The marker of a gate that is read is not empty. -/
theorem marker_ne_empty_of_ofValue?_eq_some {gate : Gate} (h : ofValue? isPattern v = some gate) :
    gate.marker ≠ "" := by
  obtain ⟨entry, -, hmarker, -⟩ := ofValue?_eq_some_iff.1 h
  rw [hmarker]
  exact Value.getD_nonemptyText?_ne_empty _ (by decide)

end Gate

end PackageLint
