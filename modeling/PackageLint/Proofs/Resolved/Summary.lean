import Mathlib
import PackageLint.Json.Writer
import PackageLint.Resolved.Files

/-!
# Summaries of any number of files

Summaries add up in the order of the files, and a file that is no document adds nothing. Over any
number of files the names of the flagged pins are as many as the flagged pins, which are some of all
pins; the sum is the summary of one document with the pins of all files, and it does not matter how
the files are grouped. What is said of a sum is worked out from these names.

## Main definitions

* `Summary.IsConsistent`: the counts and the names of a summary belong together;
* `Grouping`: a way to add up the summaries of some texts;
* `IsFirstSeen`: the elements of a list in the order in which they are first seen.

## Main results

* `Summary.isConsistent_sum`: a sum of summaries of texts is consistent;
* `Summary.sum_map_ofText`: it is the summary of the pins of all texts;
* `Grouping.summary_eq_sum`: the files may be grouped in any way;
* `result_collect`: the files of a package are added up in this way;
* `summary_of_texts`: all of this and what is said of the sum.
-/

namespace PackageLint.Resolved

/-! ## Counting pins -/

namespace Summary

instance : Zero Summary := ⟨{}⟩

/-- Nothing is known of no files, and what is known of files adds up in their order. -/
instance : AddMonoid Summary where
  add_assoc := add_assoc
  zero_add s := by
    show (⟨0 + s.total, 0 + s.flagged, [] ++ s.flaggedNames⟩ : Summary) = s
    simp
  add_zero s := by
    show (⟨s.total + 0, s.flagged + 0, s.flaggedNames ++ []⟩ : Summary) = s
    simp
  nsmul := nsmulRec

/-- Adding up summaries is the sum of the monoid, whose laws then carry over. -/
theorem sum_eq_listSum (summaries : List Summary) : sum summaries = summaries.sum :=
  List.sum_eq_foldl.symm

/-- One more pin is added at the end. -/
theorem count_eq_add (s : Summary) (pin : Pin) : s.count pin = s + ofPins [pin] := by
  rw [ofPins, List.foldl_cons, List.foldl_nil, count, count]
  split_ifs
  · rfl
  · show _ = (⟨s.total + 1, s.flagged + 0, s.flaggedNames ++ []⟩ : Summary)
    simp

/-- What was known before stays in front of what the pins add. -/
theorem foldl_count (s : Summary) (pins : List Pin) : pins.foldl count s = s + ofPins pins := by
  induction pins generalizing s with
  | nil => exact (add_zero s).symm
  | cons pin pins ih =>
    rw [ofPins, List.foldl_cons, List.foldl_cons, ih, ih, count_eq_add, count_eq_add _ pin,
      add_assoc]
    exact congrArg (s + ·) (congrArg (· + ofPins pins) (zero_add _).symm)

/-- The pins of one list behind another one add what they add by themselves. -/
theorem ofPins_append (pins more : List Pin) :
    ofPins (pins ++ more) = ofPins pins + ofPins more := by
  rw [ofPins, List.foldl_append, foldl_count]
  rfl

/-- The first pin stands in front of what the others add. -/
theorem ofPins_cons (pin : Pin) (pins : List Pin) :
    ofPins (pin :: pins) = ofPins [pin] + ofPins pins :=
  ofPins_append [pin] pins

/-- The counts and the names belong together: each flagged pin has a name, and it is a pin. -/
structure IsConsistent (s : Summary) : Prop where
  flagged_eq : s.flagged = s.flaggedNames.length
  flagged_le : s.flagged ≤ s.total

/-- Where nothing is counted, nothing is flagged. -/
theorem isConsistent_zero : IsConsistent 0 := ⟨rfl, le_rfl⟩

/-- Counts and names that belong together still do so in a sum. -/
theorem IsConsistent.add {s t : Summary} (hs : s.IsConsistent) (ht : t.IsConsistent) :
    (s + t).IsConsistent where
  flagged_eq := by simp [hs.flagged_eq, ht.flagged_eq]
  flagged_le := Nat.add_le_add hs.flagged_le ht.flagged_le

/-- A pin counts once, and once among the flagged ones if it is one of them. -/
theorem IsConsistent.count {s : Summary} (h : s.IsConsistent) (pin : Pin) :
    (s.count pin).IsConsistent := by
  have hle := h.flagged_le
  rw [Summary.count]
  split_ifs
  · exact ⟨by simp [h.flagged_eq], Nat.succ_le_succ hle⟩
  · exact ⟨h.flagged_eq, Nat.le_succ_of_le hle⟩

/-- The counts and the names of any pins belong together. -/
theorem isConsistent_ofPins (pins : List Pin) : (ofPins pins).IsConsistent := by
  induction pins using List.reverseRecOn with
  | nil => exact isConsistent_zero
  | append_singleton pins pin ih =>
    rw [ofPins_append, ← count_eq_add]
    exact ih.count pin

/-- The counts and the names of a text belong together, also if it is no document. -/
theorem isConsistent_ofText (text : List Char) : (ofText text).IsConsistent := by
  rw [ofText]
  cases Json.read? text with
  | none => exact isConsistent_zero
  | some document => exact isConsistent_ofPins _

/-- Sums of consistent summaries are consistent. -/
theorem isConsistent_sum {summaries : List Summary} (h : ∀ s ∈ summaries, s.IsConsistent) :
    (sum summaries).IsConsistent := by
  rw [sum_eq_listSum]
  induction summaries with
  | nil => exact isConsistent_zero
  | cons s summaries ih =>
    rw [List.forall_mem_cons] at h
    rw [List.sum_cons]
    exact h.1.add (ih h.2)

/-- Each pin counts once, flagged or not. -/
theorem total_ofPins (pins : List Pin) : (ofPins pins).total = pins.length := by
  induction pins with
  | nil => rfl
  | cons pin pins ih =>
    have hone : (ofPins [pin]).total = 1 := by
      rw [ofPins, List.foldl_cons, List.foldl_nil, count]
      split_ifs <;> rfl
    rw [ofPins_cons, total_add, hone, ih, List.length_cons, Nat.add_comm]

/-- The flagged names are those of the flagged pins, in their order and with repetitions. -/
theorem flaggedNames_ofPins (pins : List Pin) :
    (ofPins pins).flaggedNames = (pins.filter Pin.flagged).map Pin.displayName := by
  induction pins with
  | nil => rfl
  | cons pin pins ih =>
    rw [ofPins_cons, flaggedNames_add, ih, List.filter_cons, ofPins, List.foldl_cons,
      List.foldl_nil, count]
    split_ifs <;> rfl

end Summary

/-! ## Texts and documents -/

/-- The pins of a text, whatever they are; a text that is no document has none. -/
def textItems (text : List Char) : List Value := (Json.read? text).elim [] pinItems

namespace Summary

/-- What is known of the tables among some values. -/
def ofItems (items : List Value) : Summary :=
  ofPins ((items.filterMap Value.table?).map Pin.ofTable)

/-- The items of one list behind another one add what they add by themselves, so that an entry that
is no pin adds nothing wherever it stands. -/
theorem ofItems_append (items more : List Value) :
    ofItems (items ++ more) = ofItems items + ofItems more := by
  rw [ofItems, List.filterMap_append, List.map_append, ofPins_append, ofItems, ofItems]

/-- A text is worth the items of its document, and nothing where it has none. -/
theorem ofText_eq_ofItems (text : List Char) : ofText text = ofItems (textItems text) := by
  rw [ofText, textItems]
  cases Json.read? text <;> rfl

/-- The summaries of texts add up to the summary of all of their pins. -/
theorem sum_map_ofText (texts : List (List Char)) :
    sum (texts.map ofText) = ofItems (texts.flatMap textItems) := by
  rw [sum_eq_listSum]
  induction texts with
  | nil => rfl
  | cons text texts ih =>
    rw [List.map_cons, List.sum_cons, ih, ofText_eq_ofItems, List.flatMap_cons, ofItems_append]

end Summary

/-- A document with the given pins. -/
def pinDocument (items : List Value) : Value := .ofFields [("pins", .list items)]

/-- A document made of items holds these items. -/
theorem pinItems_pinDocument (items : List Value) : pinItems (pinDocument items) = items := rfl

/-- A way to add up the summaries of texts, two groups at a time. -/
inductive Grouping
  /-- No text. -/
  | nothing
  /-- A single text. -/
  | single (text : List Char)
  /-- The texts of two groups. -/
  | both (front back : Grouping)

namespace Grouping

/-- The texts of a group, in their order. -/
def texts : Grouping → List (List Char)
  | nothing => []
  | single text => [text]
  | both front back => front.texts ++ back.texts

/-- What is known of a group. -/
def summary : Grouping → Summary
  | nothing => {}
  | single text => .ofText text
  | both front back => front.summary + back.summary

/-- Only the texts of a group and their order matter. -/
theorem summary_eq_sum (grouping : Grouping) :
    grouping.summary = Summary.sum (grouping.texts.map Summary.ofText) := by
  rw [Summary.sum_eq_listSum]
  induction grouping with
  | nothing => rfl
  | single text => exact (List.sum_singleton).symm
  | both front back hfront hback =>
    rw [summary, hfront, hback, texts, List.map_append, List.sum_append]

end Grouping

/-! ## The files of a package -/

/-- The texts of the files that can be read. -/
def readableTexts (disk : Disk) (files : List Path) : List (List Char) :=
  files.filterMap disk.readText?

/-- Reading files one after the other never fails, and adds up what is known of those that can be
read. -/
theorem result_readFiles (disk : Disk) (s : Summary) (files : List Path) :
    (readFiles disk s files).result =
      .ok (s + Summary.sum ((readableTexts disk files).map Summary.ofText)) := by
  rw [Summary.sum_eq_listSum]
  induction files generalizing s with
  | nil => exact congrArg Except.ok (add_zero s).symm
  | cons file files ih =>
    rw [readFiles, readableTexts, List.filterMap_cons, Disk.readText?]
    cases hread : disk.readText file with
    | ok text =>
      have hfile : (readFile disk file).result = .ok (.ofText text) := by
        rw [readFile, hread]
        rfl
      rw [Run.result_bind_of_ok hfile, ih, Summary.add_assoc]
      rfl
    | error fault =>
      -- A file that cannot be read adds nothing.
      have hfile : (readFile disk file).result = .ok 0 := by
        rw [readFile, hread]
        rfl
      rw [Run.result_bind_of_ok hfile, ih, add_zero]
      rfl

/-- What is known of a package is the sum of what is known of its files. -/
theorem result_collect (disk : Disk) (root : Path) :
    (collect disk root).result =
      .ok (Summary.sum ((readableTexts disk (files disk root)).map Summary.ofText),
        files disk root) := by
  rw [collect, Run.result_bind_of_ok (result_readFiles disk {} _)]
  exact congrArg (fun s => Except.ok (s, files disk root)) (zero_add _)

/-! ## What is said of a summary -/

/-- The elements of a list, in the order in which they are first seen in it. -/
structure IsFirstSeen {α : Type} [DecidableEq α] (elements all : List α) : Prop where
  mem_iff : ∀ a, a ∈ elements ↔ a ∈ all
  pairwise : elements.Pairwise fun a b => all.idxOf a < all.idxOf b

/-- Keeping the first one of equal elements keeps the order in which they are first seen. -/
theorem isFirstSeen_distinct {α : Type} [DecidableEq α] (all : List α) :
    IsFirstSeen (distinct all) all := by
  refine ⟨fun a => mem_distinct, ?_⟩
  induction all with
  | nil => exact .nil
  | cons a all ih =>
    have hbehind {b : α} (hb : b ∈ (distinct all).filter (· ≠ a)) :
        (a :: all).idxOf b = all.idxOf b + 1 := by
      have hne : b ≠ a := by simpa using (List.mem_filter.1 hb).2
      exact List.idxOf_cons_ne _ hne.symm
    rw [distinct, List.pairwise_cons]
    refine ⟨fun b hb => ?_, (ih.filter _).imp_of_mem fun {b c} hb hc hlt => ?_⟩
    · rw [List.idxOf_cons_self, hbehind hb]
      exact Nat.succ_pos _
    · rw [hbehind hb, hbehind hc]
      exact Nat.succ_lt_succ hlt

/-- What is listed in the order in which it is first seen is listed once. -/
theorem IsFirstSeen.nodup {α : Type} [DecidableEq α] {elements all : List α}
    (h : IsFirstSeen elements all) : elements.Nodup :=
  h.pairwise.imp fun hlt heq => absurd (heq ▸ hlt) (lt_irrefl _)

/-- There is only one such order. -/
theorem IsFirstSeen.eq_distinct {α : Type} [DecidableEq α] {elements all : List α}
    (h : IsFirstSeen elements all) : elements = distinct all := by
  have hdistinct := isFirstSeen_distinct all
  have hperm : elements.Perm (distinct all) :=
    (List.perm_ext_iff_of_nodup h.nodup hdistinct.nodup).2 fun a =>
      (h.mem_iff a).trans (hdistinct.mem_iff a).symm
  exact hperm.eq_of_pairwise (fun a b _ _ hab hba => absurd (hab.trans hba) (lt_irrefl _))
    h.pairwise hdistinct.pairwise

/-- There are no more different elements than there are elements. -/
theorem length_distinct_le {α : Type} [DecidableEq α] (xs : List α) :
    (distinct xs).length ≤ xs.length := by
  induction xs with
  | nil => exact le_rfl
  | cons a xs ih =>
    rw [distinct, List.length_cons, List.length_cons]
    exact Nat.succ_le_succ ((List.length_filter_le _ _).trans ih)

section Findings

variable {s : Summary}

/-- Nothing that is said of pins is an error. -/
theorem severity_of_mem_findings {found flagging : Bool} {d : Diagnostic}
    (h : d ∈ findings s found flagging) : d.severity.atLeast .error = false := by
  rw [findings] at h
  split_ifs at h
  · rw [List.mem_singleton.1 h]
    rfl
  · rw [List.mem_singleton.1 h]
    rfl
  · rw [List.mem_singleton.1 h]
    rfl
  · rcases List.mem_cons.1 h with rfl | h
    · rfl
    · obtain ⟨name, -, rfl⟩ := List.mem_map.1 h
      rfl

/-- Where nothing is flagged, or flagged pins are no matter for complaint, there is one remark. -/
theorem exists_findings_eq_singleton {flagging : Bool} (h : flagging = false ∨ s.flagged = 0) :
    ∃ remark, findings s true flagging = [remark] ∧ remark.severity = .info := by
  rw [findings, if_neg (by decide)]
  split_ifs with hnone hoff
  · exact ⟨_, rfl, rfl⟩
  · exact ⟨_, rfl, rfl⟩
  · exact absurd (h.resolve_right hnone) (by simpa using hoff)

/-- Flagged pins are counted by a warning, and named behind it, each name once. -/
theorem findings_of_flagged (h : s.flagged ≠ 0) :
    findings s true true =
      resolvedFinding .warning s!"Found {s.flagged} branch dependencies (anti-pattern)"
          (some "Pin all dependencies to specific versions or exact revisions") ::
        s.names.map fun name =>
          resolvedFinding .info s!"Branch dependency: {name}"
            (some "Replace 'branch: \"main\"' with specific version or revision") := by
  rw [findings, if_neg (by decide), if_neg h, if_neg (by decide)]

/-- With a flagged pin there is a name, and there are no more names than flagged pins. -/
theorem length_names_of_isConsistent (hs : s.IsConsistent) (h : 0 < s.flagged) :
    1 ≤ s.names.length ∧ s.names.length ≤ s.flagged := by
  rw [hs.flagged_eq] at h ⊢
  obtain ⟨name, hname⟩ := List.exists_mem_of_length_pos h
  exact ⟨List.length_pos_of_mem (mem_distinct.2 hname), length_distinct_le _⟩

end Findings

/-- Over any number of texts the counts and the names belong together, the sum is the summary of one
document with all of the pins, however the texts are grouped, and what is said of it is one warning
that counts the flagged pins with a remark for each of their names, or one remark, and no error. -/
theorem summary_of_texts (texts : List (List Char)) :
    let total := Summary.sum (texts.map Summary.ofText)
    (total.flagged = total.flaggedNames.length ∧ total.flaggedNames.length ≤ total.total) ∧
    (∀ text document, Json.read? text = some document →
      pinItems document = texts.flatMap textItems → Summary.ofText text = total) ∧
    Summary.ofDocument (pinDocument (texts.flatMap textItems)) = total ∧
    (∀ grouping : Grouping, grouping.texts = texts → grouping.summary = total) ∧
    (0 < total.flagged → ∃ warning remarks names,
      findings total true true = warning :: remarks ∧
      warning.severity = .warning ∧
      warning.message = s!"Found {total.flagged} branch dependencies (anti-pattern)" ∧
      IsFirstSeen names total.flaggedNames ∧
      remarks.map (·.message) = names.map ("Branch dependency: " ++ ·) ∧
      (∀ remark ∈ remarks, remark.severity = .info) ∧
      1 ≤ remarks.length ∧ remarks.length ≤ total.flagged) ∧
    (∀ flagging, flagging = false ∨ total.flagged = 0 →
      ∃ remark, findings total true flagging = [remark] ∧ remark.severity = .info) ∧
    ∀ flagging, ∀ d ∈ findings total true flagging, d.severity.atLeast .error = false := by
  intro total
  have hconsistent : total.IsConsistent :=
    Summary.isConsistent_sum (List.forall_mem_map.2 fun text _ => Summary.isConsistent_ofText text)
  have htotal : total = Summary.ofItems (texts.flatMap textItems) := Summary.sum_map_ofText texts
  refine ⟨⟨hconsistent.flagged_eq, hconsistent.flagged_eq ▸ hconsistent.flagged_le⟩, ?_,
    ?_, ?_, fun hflagged => ?_, fun flagging h => exists_findings_eq_singleton h,
    fun flagging d hd => severity_of_mem_findings hd⟩
  -- One document with all of the pins, as a text and by itself.
  · intro text document hread hitems
    rw [Summary.ofText_eq_ofItems, textItems, hread, Option.elim_some, hitems, htotal]
  · rw [Summary.ofDocument, pinTables, pinItems_pinDocument, htotal, Summary.ofItems]
  · rintro grouping rfl
    exact grouping.summary_eq_sum
  · have hlength := length_names_of_isConsistent hconsistent hflagged
    refine ⟨_, _, total.names, findings_of_flagged hflagged.ne', rfl, rfl, isFirstSeen_distinct _,
      ?_, ?_, ?_, ?_⟩
    · rw [List.map_map]
      rfl
    · rintro remark hremark
      obtain ⟨name, -, rfl⟩ := List.mem_map.1 hremark
      rfl
    · rw [List.length_map]
      exact hlength.1
    · rw [List.length_map]
      exact hlength.2

/-- The text of a lock file with one pin to a branch. -/
def branchLock : List Char :=
  (Json.write none (pinDocument [.ofFields [("identity", .text "nav"),
    ("state", .ofFields [("branch", .text "main")])]])).toList

/-- A package that two files flag is counted twice and named once, and a text between them that is
no document adds nothing. -/
theorem summary_of_texts_branchLock :
    ∃ total warning remarks,
      Summary.sum ([branchLock, ['n', 'o'], branchLock].map Summary.ofText) = total ∧
      total.total = 2 ∧ findings total true true = warning :: remarks ∧
      warning.message = "Found 2 branch dependencies (anti-pattern)" ∧
      remarks.map (·.message) = ["Branch dependency: nav"] := by
  have hlock : Summary.ofText branchLock = ⟨1, 1, ["nav"]⟩ := by cbv
  have hno : Summary.ofText ['n', 'o'] = {} := by cbv
  have htotal : Summary.sum ([branchLock, ['n', 'o'], branchLock].map Summary.ofText) =
      ⟨2, 2, ["nav", "nav"]⟩ := by
    simp only [List.map_cons, List.map_nil, hlock, hno]
    rfl
  obtain ⟨-, -, -, -, hflagged, -⟩ := summary_of_texts [branchLock, ['n', 'o'], branchLock]
  rw [htotal] at hflagged
  obtain ⟨warning, remarks, names, hfindings, -, hwarning, hnames, hremarks, -⟩ :=
    hflagged Nat.two_pos
  rw [hnames.eq_distinct] at hremarks
  exact ⟨_, warning, remarks, htotal, rfl, hfindings, hwarning, hremarks⟩

end PackageLint.Resolved
