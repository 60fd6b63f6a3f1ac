import Mathlib
import PackageLint.Proofs.Source.Comment

/-!
# The counts of a block

Implicit compositions, conditions and components are counted line by line, each by a test of its
own. All three tests pass over blank lines and comments, and the components of a builder are the
implicit compositions that do not begin with a condition or a branch, so that the counts are ordered
whatever the vocabulary is. A test sees a line without its outer blanks and nothing of the other
lines, so that blocks add up and neither the order of the lines nor their indents matter.

## Main definitions

* `IsCodeLine`: the line is neither blank nor a comment;
* `IsReindented`: the lines differ only in the blanks in front;
* `Measure.counts`: what is measured by counting lines.

## Main results

* `isBuilderComponent_eq`, `implicit_eq_components_add`: implicit compositions and components, on a
  line and in a block;
* `components_le_implicit`, `implicit_le_countP_isCodeLine`, `conditional_le_countP_isCodeLine`: the
  counts in order;
* `counts_measure_append`, `counts_measure_perm`: blocks put together and permuted;
* `measure_map_trim`, `measure_eq_of_isReindented`: outer blanks are not measured;
* `counts_ordered_and_additive`: all of this for a block.
-/

namespace PackageLint.Source

open Text

/-- The line is neither blank nor a comment with blanks at most in front of it. -/
structure IsCodeLine (line : Line) : Prop where
  /-- Some character is no blank. -/
  not_blank : ¬ ∀ c ∈ line, isBlank c = true
  /-- There is more than blanks in front of the comment. -/
  not_comment : ¬ ∃ blanks comment, line = blanks ++ '/' :: '/' :: comment ∧
    ∀ c ∈ blanks, isBlank c = true

/-- The two lines are the same but for the blanks in front. -/
def IsReindented (line line' : Line) : Prop :=
  ∃ blanks blanks' text, line = blanks ++ text ∧ line' = blanks' ++ text ∧
    (∀ c ∈ blanks, isBlank c = true) ∧ ∀ c ∈ blanks', isBlank c = true

/-- The numbers of a measure that are found by counting lines. -/
def Measure.counts (m : Measure) : Nat × Nat × Nat := (m.implicit, m.conditional, m.components)

/-- The lines of code are those that the test for blank lines and comments leaves. -/
theorem isCodeLine_iff {line : Line} : IsCodeLine line ↔ isBlankOrComment line = false := by
  rw [← Bool.not_eq_true, isBlankOrComment_iff, not_or]
  exact ⟨fun h => ⟨h.not_blank, h.not_comment⟩, fun h => ⟨h.1, h.2⟩⟩

instance : DecidablePred IsCodeLine := fun _ => decidable_of_iff _ isCodeLine_iff.symm

/-- Lines that are the same but for their indents are the same without blanks around them. -/
theorem IsReindented.trim_eq {line line' : Line} (h : IsReindented line line') :
    trim line = trim line' := by
  obtain ⟨blanks, blanks', text, rfl, rfl, hblanks, hblanks'⟩ := h
  rw [trim_append_of_isBlank hblanks, trim_append_of_isBlank hblanks']

section Line

variable (vocabulary : Vocabulary) (line : Line)

/-! ## The tests of a line -/

/-- A line begins with one of some tokens if it begins with one of the first or of the other
ones. -/
theorem startsWith_append (tokens more : List String) :
    startsWith (tokens ++ more) line = (startsWith tokens line || startsWith more line) :=
  List.any_append

/-- Blanks around a line do not make or unmake a component. -/
theorem isComponent_trim : isComponent vocabulary (trim line) = isComponent vocabulary line := by
  rw [isComponent, isComponent, trim_trim]

/-- A line that wraps is no component, so an implicit composition is a component on a line of code
that does not begin with a closing brace. -/
theorem isImplicit_eq :
    isImplicit vocabulary line =
      (!(isBlankOrComment line || startsWith ["\x7d"] (trim line)) &&
        isComponent vocabulary line) := by
  -- The component asks for the tokens that wrap a second time.
  have hwraps : (!holdsAny vocabulary.wrapperTokens (trim line) && isComponent vocabulary line) =
      isComponent vocabulary line := by
    rw [isComponent, ← Bool.and_assoc, Bool.and_self]
  rw [← hwraps, ← Bool.and_assoc, isImplicit, isBlankOrComment_trim, isComponent_trim, startsWith,
    List.any_cons, List.any_nil, Bool.or_false]

/-- The components of a builder are the implicit compositions that do not begin with a condition or
a branch. -/
theorem isBuilderComponent_eq :
    isBuilderComponent vocabulary line =
      (isImplicit vocabulary line &&
        !startsWith (vocabulary.conditionalPrefixes ++ vocabulary.branchPrefixes) (trim line)) := by
  -- An implicit composition already excludes the closing brace in front of the prefixes.
  have hexcluded (prefixes : List String) :
      startsWith ("\x7d" :: prefixes) (trim line) =
        (startsWith ["\x7d"] (trim line) || startsWith prefixes (trim line)) :=
    startsWith_append (trim line) ["\x7d"] prefixes
  rw [isBuilderComponent, isBlankOrComment_trim, isComponent_trim, List.cons_append, hexcluded,
    isImplicit_eq, ← Bool.or_assoc, Bool.not_or, Bool.and_assoc, Bool.and_assoc,
    Bool.and_comm (isComponent _ _)]

variable {vocabulary line}

/-- An implicit composition stands on a line of code. -/
theorem isCodeLine_of_isImplicit (h : isImplicit vocabulary line = true) : IsCodeLine line := by
  rw [isImplicit_eq, Bool.and_eq_true, Bool.not_or, Bool.and_eq_true, Bool.not_eq_true'] at h
  exact isCodeLine_iff.2 h.1.1

/-- A condition stands on a line of code. -/
theorem isCodeLine_of_isConditional (h : isConditional vocabulary line = true) :
    IsCodeLine line := by
  rw [isConditional, isBlankOrComment_trim, Bool.and_eq_true, Bool.not_eq_true'] at h
  exact isCodeLine_iff.2 h.1

end Line

section Block

variable (vocabulary : Vocabulary) (lines : List Line)

/-! ## The counts in order -/

/-- The implicit compositions of a block are its components and those lines that are no components
only because they begin with a condition or a branch. -/
theorem implicit_eq_components_add :
    (measure vocabulary lines).implicit =
      (measure vocabulary lines).components +
        lines.countP fun line => isImplicit vocabulary line &&
          startsWith (vocabulary.conditionalPrefixes ++ vocabulary.branchPrefixes) (trim line) := by
  have hcomponents : (measure vocabulary lines).components =
      lines.countP fun line => isImplicit vocabulary line &&
        !startsWith (vocabulary.conditionalPrefixes ++ vocabulary.branchPrefixes) (trim line) :=
    congrArg lines.countP (funext (isBuilderComponent_eq vocabulary))
  rw [hcomponents, Nat.add_comm, ← List.countP_filter, ← List.countP_filter]
  exact List.countP_eq_countP_filter_add _ _ _

/-- There are no more components than implicit compositions. -/
theorem components_le_implicit :
    (measure vocabulary lines).components ≤ (measure vocabulary lines).implicit := by
  rw [implicit_eq_components_add]
  exact Nat.le_add_right _ _

/-- There are no more implicit compositions than lines of code. -/
theorem implicit_le_countP_isCodeLine :
    (measure vocabulary lines).implicit ≤ lines.countP (IsCodeLine ·) :=
  List.countP_mono_left fun _ _ himplicit => decide_eq_true (isCodeLine_of_isImplicit himplicit)

/-- There are no more conditions than lines of code. -/
theorem conditional_le_countP_isCodeLine :
    (measure vocabulary lines).conditional ≤ lines.countP (IsCodeLine ·) :=
  List.countP_mono_left fun _ _ hconditional =>
    decide_eq_true (isCodeLine_of_isConditional hconditional)

/-! ## Blocks put together, permuted and indented -/

/-- The counts of two blocks one behind the other add up, as every line is counted by itself. -/
theorem counts_measure_append (more : List Line) :
    (measure vocabulary (lines ++ more)).counts =
      (measure vocabulary lines).counts + (measure vocabulary more).counts := by
  simp only [Measure.counts, measure, implicitCount, conditionalCount, componentCount,
    List.countP_append, Prod.mk_add_mk]

/-- Lines are measured without the blanks around them. -/
theorem measure_map_trim : measure vocabulary (lines.map trim) = measure vocabulary lines := by
  refine measure_map (fun line _ state index => ?_) (fun line _ => ?_) (fun line _ => ?_)
    fun line _ => ?_
  · simp only [Nesting.step, trim_trim]
  · simp only [isImplicit, trim_trim]
  · simp only [isConditional, trim_trim]
  · simp only [isBuilderComponent, trim_trim]

variable {lines} {lines' : List Line}

/-- The counts of a block do not depend on the order of its lines, unlike the nesting. -/
theorem counts_measure_perm (h : lines.Perm lines') :
    (measure vocabulary lines).counts = (measure vocabulary lines').counts := by
  simp only [Measure.counts, measure, implicitCount, conditionalCount, componentCount, h.countP_eq]

/-- Other indents leave the whole measure as it is, the nesting included. -/
theorem measure_eq_of_isReindented (h : List.Forall₂ IsReindented lines lines') :
    measure vocabulary lines = measure vocabulary lines' := by
  have htrim : lines.map trim = lines'.map trim := by
    rw [← List.forall₂_eq_eq_eq, List.forall₂_map_left_iff, List.forall₂_map_right_iff]
    exact h.imp fun _ _ hline => hline.trim_eq
  calc measure vocabulary lines = measure vocabulary (lines.map trim) :=
        (measure_map_trim vocabulary lines).symm
    _ = measure vocabulary (lines'.map trim) := by rw [htrim]
    _ = measure vocabulary lines' := measure_map_trim vocabulary lines'

end Block

/-- The counts of a block are ordered and additive, whatever the vocabulary is. There are no more
components than implicit compositions, no more of these than lines of code and no more conditions
than that, so that the score is at most three times the number of these lines. The counts of two
blocks one behind the other add up. Lines in another order make the same counts, and lines with
other indents the same measure. -/
theorem counts_ordered_and_additive (vocabulary : Vocabulary) (lines more : List Line) :
    let m := measure vocabulary lines
    let codeLines := lines.countP (IsCodeLine ·)
    (m.components ≤ m.implicit ∧ m.implicit ≤ codeLines ∧ m.conditional ≤ codeLines ∧
      m.score ≤ 3 * codeLines) ∧
    (measure vocabulary (lines ++ more)).counts = m.counts + (measure vocabulary more).counts ∧
    (∀ lines', lines'.Perm lines → (measure vocabulary lines').counts = m.counts) ∧
    ∀ lines', List.Forall₂ IsReindented lines lines' → measure vocabulary lines' = m := by
  intro m codeLines
  have hcomponents : m.components ≤ m.implicit := components_le_implicit vocabulary lines
  have himplicit : m.implicit ≤ codeLines := implicit_le_countP_isCodeLine vocabulary lines
  have hconditional : m.conditional ≤ codeLines := conditional_le_countP_isCodeLine vocabulary lines
  -- A condition counts once and a component twice.
  have hscore : m.score ≤ 3 * codeLines := by
    rw [Measure.score]
    omega
  exact ⟨⟨hcomponents, himplicit, hconditional, hscore⟩,
    counts_measure_append vocabulary lines more, fun _ => counts_measure_perm vocabulary,
    fun _ h => (measure_eq_of_isReindented vocabulary h).symm⟩

/-- A block with two features in the branches of a condition and a condition inside an expression;
its third feature is grouped. -/
def branchingBlock : List Line :=
  ["if isEnabled \x7b", "  AFeature()", "\x7d else \x7b", "  BFeature()", "\x7d",
    "CombineReducers(CFeature())", "let x = flag ? 1 : 0"].map String.toList

/-- Backwards the block has the same counts, and behind a tab in each line the same measure. -/
theorem counts_ordered_and_additive_branchingBlock :
    (measure {} branchingBlock).counts = (2, 2, 2) ∧
    branchingBlock.reverse.Perm branchingBlock ∧
    (measure {} branchingBlock.reverse).counts = (2, 2, 2) ∧
    List.Forall₂ IsReindented branchingBlock (branchingBlock.map ('\t' :: ·)) ∧
    measure {} (branchingBlock.map ('\t' :: ·)) =
      { nesting := 1, implicit := 2, conditional := 2, components := 2 } := by
  have hmeasure : measure {} branchingBlock =
      { nesting := 1, implicit := 2, conditional := 2, components := 2 } := by
    decide +kernel
  have hperm : branchingBlock.reverse.Perm branchingBlock := List.reverse_perm _
  have hindents : List.Forall₂ IsReindented branchingBlock (branchingBlock.map ('\t' :: ·)) := by
    rw [List.forall₂_map_right_iff, List.forall₂_same]
    exact fun line _ => ⟨[], ['\t'], line, rfl, rfl, nofun, List.forall_mem_singleton.2 rfl⟩
  obtain ⟨-, -, hpermuted, hreindented⟩ := counts_ordered_and_additive {} branchingBlock []
  have hcounts : (measure {} branchingBlock).counts = (2, 2, 2) := by
    rw [hmeasure]
    rfl
  exact ⟨hcounts, hperm, (hpermuted _ hperm).trans hcounts, hindents,
    (hreindented _ hindents).trans hmeasure⟩

end PackageLint.Source
