import Mathlib
import PackageLint.Proofs.Source.Nesting

/-!
# The levels of a block, line by line

The nesting of a block is tracked by its level, the lines on which the open groupings began, the
deepest level so far and a list of problems. The four are brought up to date one by one on each
line, and they stay in step: the level is the number of open groupings, the problems are the lines
that raise it above one, and the deepest level is the greatest one among the problems as soon as it
is above one.

## Main definitions

* `reachedLevel`: the level that a line reaches before its braces close any grouping;
* `NestingProblem.Arises`: a line of a block brings the level above one;
* `Nesting.IsConsistent`: the deepest level and the problems belong together.

## Main results

* `level_nesting`, `level_add_popped`: the level is the number of open groupings, and what is taken
  off it was on it;
* `Nesting.IsConsistent.step`, `isConsistent_nesting`: a line, and so a block, keeps the deepest
  level and the problems together;
* `mem_problems_iff`: the problems are the lines that bring the level above one;
* `problems_isPrefix_append`: further lines add problems at the end;
* `nesting_levels`: all of this for a block.
-/

namespace PackageLint.Source

open Text

section Levels

variable (vocabulary : Vocabulary)

/-- The level that a line behind others reaches before its braces close any grouping. -/
def reachedLevel (before : List Line) (line : Line) : Nat :=
  (nesting vocabulary before).level + opensOn vocabulary.groupingToken line

/-- A line of a block holds the grouping token and brings the level above one, and the problem tells
its number and the level. -/
def NestingProblem.Arises (lines : List Line) (problem : NestingProblem) : Prop :=
  ∃ before line, before ++ [line] <+: lines ∧
    vocabulary.groupingToken.toList <:+: line ∧
    (nesting vocabulary before).level < reachedLevel vocabulary before line ∧
    1 < reachedLevel vocabulary before line ∧
    problem = ⟨before.length + 1, reachedLevel vocabulary before line⟩

/-- One more line of a block is one more step. -/
theorem nesting_append_singleton (lines : List Line) (line : Line) :
    nesting vocabulary (lines ++ [line]) =
      (nesting vocabulary lines).step vocabulary.groupingToken lines.length line := by
  rw [nesting, nesting, Nesting.run_append, Nat.zero_add]
  rfl

/-! ## The level and the open groupings -/

/-- The level is the number of groupings that are open. -/
theorem level_nesting (lines : List Line) :
    (nesting vocabulary lines).level = (nesting vocabulary lines).openings.length := by
  have hdepth := hasDepth_nesting vocabulary lines
  rw [hdepth.level, hdepth.openings]

/-- What the braces of a line close was open: the level behind the line and the groupings that are
closed make up the level that the line reached. -/
theorem level_add_popped (before : List Line) (line : Line) :
    (nesting vocabulary (before ++ [line])).level +
        min (closesOn line) ((nesting vocabulary before).openings.length +
          opensOn vocabulary.groupingToken line) =
      reachedLevel vocabulary before line := by
  have hafter : (nesting vocabulary (before ++ [line])).level =
      reachedLevel vocabulary before line - closesOn line := by
    rw [(hasDepth_nesting vocabulary (before ++ [line])).level, depth_append_singleton,
      reachedLevel, (hasDepth_nesting vocabulary before).level, Depth.step]
  -- No more groupings are closed than are open, so that the difference is an honest one.
  rw [hafter, ← level_nesting, ← reachedLevel]
  omega

/-- A line reaches a higher level exactly if the token stands on it, blanks at its ends aside. -/
theorem level_lt_reachedLevel_iff {before : List Line} {line : Line} :
    (nesting vocabulary before).level < reachedLevel vocabulary before line ↔
      vocabulary.groupingToken.toList <:+: trim line := by
  rw [reachedLevel, Nat.lt_add_right_iff_pos, opensOn, countOf_pos_iff]

/-- The deepest level is not less than any level that a line reaches. -/
theorem deepest_nesting_append_singleton (lines : List Line) (line : Line) :
    (nesting vocabulary (lines ++ [line])).deepest =
      max (nesting vocabulary lines).deepest (reachedLevel vocabulary lines line) := by
  rw [deepest_nesting, depth_append_singleton, Depth.step, ← deepest_nesting, reachedLevel,
    (hasDepth_nesting vocabulary lines).level]

end Levels

/-! ## The deepest level and the problems -/

namespace Nesting

/-- A line adds a problem exactly if it raises the level, and above one. -/
theorem problems_step (token : String) (state : Nesting) (index : Nat) (line : Line) :
    (state.step token index line).problems =
      if 0 < opensOn token line ∧ 1 < state.level + opensOn token line then
        state.problems ++ [⟨index + 1, state.level + opensOn token line⟩]
      else state.problems := by
  show (state.openGroups index (opensOn token line)).problems = _
  rw [openGroups]
  by_cases hnone : opensOn token line = 0
  · rw [if_pos hnone, if_neg fun hboth => hboth.1.ne' hnone]
  · rw [if_neg hnone]
    simp only [Nat.pos_of_ne_zero hnone, true_and]

theorem deepest_step (token : String) (state : Nesting) (index : Nat) (line : Line) :
    (state.step token index line).deepest =
      if 0 < opensOn token line then max state.deepest (state.level + opensOn token line)
      else state.deepest := by
  show (state.openGroups index (opensOn token line)).deepest = _
  rw [openGroups]
  by_cases hnone : opensOn token line = 0
  · rw [if_pos hnone, if_neg fun hopens => hopens.ne' hnone]
  · rw [if_neg hnone, if_pos (Nat.pos_of_ne_zero hnone)]

/-- The problems have levels above one, and the deepest level is the greatest of them as soon as it
is above one. -/
structure IsConsistent (state : Nesting) : Prop where
  /-- A problem tells a level above one. -/
  one_lt_level : ∀ problem ∈ state.problems, 1 < problem.level
  /-- No problem tells a level deeper than the deepest one. -/
  level_le_deepest : ∀ problem ∈ state.problems, problem.level ≤ state.deepest
  /-- A deepest level above one is told by some problem. -/
  exists_of_one_lt : 1 < state.deepest → ∃ problem ∈ state.problems, problem.level = state.deepest

namespace IsConsistent

variable {state : Nesting}

/-- A line that raises the deepest level above one adds the problem that tells this level. -/
theorem step (h : state.IsConsistent) (token : String) (index : Nat) (line : Line) :
    (state.step token index line).IsConsistent := by
  have hproblems := state.problems_step token index line
  have hdeepest := state.deepest_step token index line
  have hle : state.deepest ≤ (state.step token index line).deepest := by
    rw [hdeepest]
    split_ifs <;> omega
  by_cases hraises : 0 < opensOn token line ∧ 1 < state.level + opensOn token line
  · rw [if_pos hraises] at hproblems
    rw [if_pos hraises.1] at hdeepest
    refine ⟨fun problem hproblem => ?_, fun problem hproblem => ?_, fun hdeep => ?_⟩
    · rw [hproblems, List.mem_append, List.mem_singleton] at hproblem
      rcases hproblem with hold | rfl
      · exact h.one_lt_level problem hold
      · exact hraises.2
    · rw [hproblems, List.mem_append, List.mem_singleton] at hproblem
      rcases hproblem with hold | rfl
      · exact (h.level_le_deepest problem hold).trans hle
      · rw [hdeepest]
        exact le_max_right _ _
    · rw [hproblems, hdeepest]
      rcases le_total state.deepest (state.level + opensOn token line) with hnew | hold
      · exact ⟨_, List.mem_append_right _ (List.mem_singleton_self _), (max_eq_right hnew).symm⟩
      -- The level was deeper before, so that an older problem tells it.
      · obtain ⟨problem, hproblem, hlevel⟩ := h.exists_of_one_lt (hraises.2.trans_le hold)
        exact ⟨problem, List.mem_append_left _ hproblem, hlevel.trans (max_eq_left hold).symm⟩
  -- Any other line leaves the problems as they are, and the deepest level unless it is one at most.
  · rw [if_neg hraises] at hproblems
    have hsame (hdeep : 1 < (state.step token index line).deepest) :
        (state.step token index line).deepest = state.deepest := by
      rw [hdeepest] at hdeep ⊢
      split_ifs at hdeep ⊢ <;> omega
    refine ⟨fun problem hproblem => ?_, fun problem hproblem => ?_, fun hdeep => ?_⟩
    · exact h.one_lt_level problem (hproblems ▸ hproblem)
    · exact (h.level_le_deepest problem (hproblems ▸ hproblem)).trans hle
    · rw [hproblems, hsame hdeep]
      exact h.exists_of_one_lt (hsame hdeep ▸ hdeep)

theorem one_lt_deepest_iff (h : state.IsConsistent) : 1 < state.deepest ↔ state.problems ≠ [] := by
  constructor
  · intro hdeep
    obtain ⟨problem, hproblem, -⟩ := h.exists_of_one_lt hdeep
    exact List.ne_nil_of_mem hproblem
  · intro hne
    obtain ⟨problem, hproblem⟩ := List.exists_mem_of_ne_nil _ hne
    exact (h.one_lt_level problem hproblem).trans_le (h.level_le_deepest problem hproblem)

theorem isGreatest_deepest (h : state.IsConsistent) (hne : state.problems ≠ []) :
    IsGreatest {level | ∃ problem ∈ state.problems, problem.level = level} state.deepest := by
  refine ⟨h.exists_of_one_lt (h.one_lt_deepest_iff.2 hne), ?_⟩
  rintro level ⟨problem, hproblem, rfl⟩
  exact h.level_le_deepest problem hproblem

end IsConsistent

end Nesting

section Problems

variable (vocabulary : Vocabulary)

/-- In every block the deepest level and the problems belong together. -/
theorem isConsistent_nesting (lines : List Line) : (nesting vocabulary lines).IsConsistent := by
  induction lines using List.reverseRecOn with
  | nil => exact ⟨nofun, nofun, nofun⟩
  | append_singleton lines line ih =>
    rw [nesting_append_singleton]
    exact ih.step _ _ _

theorem problems_nesting_append_singleton (lines : List Line) (line : Line) :
    (nesting vocabulary (lines ++ [line])).problems =
      if (nesting vocabulary lines).level < reachedLevel vocabulary lines line ∧
          1 < reachedLevel vocabulary lines line then
        (nesting vocabulary lines).problems ++
          [⟨lines.length + 1, reachedLevel vocabulary lines line⟩]
      else (nesting vocabulary lines).problems := by
  rw [nesting_append_singleton, Nesting.problems_step]
  simp only [reachedLevel, Nat.lt_add_right_iff_pos]

/-- The problems of a block are the lines that bring the level above one. -/
theorem mem_problems_iff {lines : List Line} {problem : NestingProblem} :
    problem ∈ (nesting vocabulary lines).problems ↔ problem.Arises vocabulary lines := by
  induction lines using List.reverseRecOn with
  | nil =>
    refine iff_of_false List.not_mem_nil ?_
    rintro ⟨before, line, hprefix, -⟩
    simp at hprefix
  | append_singleton lines line ih =>
    have hcases : problem ∈ (nesting vocabulary (lines ++ [line])).problems ↔
        problem ∈ (nesting vocabulary lines).problems ∨
          ((nesting vocabulary lines).level < reachedLevel vocabulary lines line ∧
            1 < reachedLevel vocabulary lines line) ∧
          problem = ⟨lines.length + 1, reachedLevel vocabulary lines line⟩ := by
      rw [problems_nesting_append_singleton]
      split_ifs with hraises <;> simp [hraises]
    rw [hcases, ih]
    constructor
    · rintro (⟨before, first, hprefix, h⟩ | ⟨⟨hraises, hone⟩, rfl⟩)
      · exact ⟨before, first, hprefix.trans (List.prefix_append _ _), h⟩
      -- The token stands on the line without its outer blanks, and so on the line.
      · have htoken := (level_lt_reachedLevel_iff vocabulary).1 hraises
        obtain ⟨front, back, hline, -⟩ := exists_eq_append_trim line
        have hholds := htoken.trans ⟨front, back, hline.symm⟩
        exact ⟨lines, line, List.prefix_refl _, hholds, hraises, hone, rfl⟩
    -- A line of the longer block is the last one or one of the lines before.
    · rintro ⟨before, first, hprefix, htoken, hraises, hone, rfl⟩
      rcases List.prefix_concat_iff.1 hprefix with heq | hprefix
      · obtain ⟨rfl, hfirst⟩ := List.append_inj' heq rfl
        obtain rfl := List.singleton_inj.1 hfirst
        exact .inr ⟨⟨hraises, hone⟩, rfl⟩
      · exact .inl ⟨before, first, hprefix, htoken, hraises, hone, rfl⟩

/-- The lines of the problems are lines of the block. -/
theorem line_le_of_mem_problems {lines : List Line} :
    ∀ problem ∈ (nesting vocabulary lines).problems, problem.line ≤ lines.length := by
  intro problem hproblem
  obtain ⟨before, line, hprefix, -, -, -, rfl⟩ := (mem_problems_iff vocabulary).1 hproblem
  simpa using hprefix.length_le

/-- The problems come in the order of their lines, and no line has two. -/
theorem pairwise_problems (lines : List Line) :
    (nesting vocabulary lines).problems.Pairwise (·.line < ·.line) := by
  induction lines using List.reverseRecOn with
  | nil => exact .nil
  | append_singleton lines line ih =>
    rw [problems_nesting_append_singleton]
    split_ifs
    · refine List.pairwise_append.2
        ⟨ih, List.pairwise_singleton _ _, fun problem hproblem last hlast => ?_⟩
      rw [List.mem_singleton.1 hlast]
      exact Nat.lt_succ_of_le (line_le_of_mem_problems vocabulary problem hproblem)
    · exact ih

/-- Further lines add problems at the end and do not make the level less deep. -/
theorem problems_isPrefix_append (lines more : List Line) :
    (nesting vocabulary lines).problems <+: (nesting vocabulary (lines ++ more)).problems ∧
      (nesting vocabulary lines).deepest ≤ (nesting vocabulary (lines ++ more)).deepest := by
  induction more using List.reverseRecOn with
  | nil =>
    rw [List.append_nil]
    exact ⟨List.prefix_refl _, le_refl _⟩
  | append_singleton more line ih =>
    rw [← List.append_assoc, problems_nesting_append_singleton, deepest_nesting_append_singleton]
    refine ⟨?_, le_max_of_le_left ih.2⟩
    split_ifs
    · exact ih.1.trans (List.prefix_append _ _)
    · exact ih.1

/-- The nesting of a block is consistent. Behind each of its lines the level is the number of open
groupings, nothing is taken off it that was not on it, and it is raised exactly where the token
stands. The deepest level is above one exactly if there are problems, and then it is the greatest
one that they tell. The problems tell, in their order, the lines that hold the token and bring the
level above one, and further lines neither lower the deepest level nor change the problems, but add
some at their end. -/
theorem nesting_levels (lines : List Line) :
    let state := nesting vocabulary lines
    (∀ before line, before ++ [line] <+: lines →
      (nesting vocabulary (before ++ [line])).level =
          (nesting vocabulary (before ++ [line])).openings.length ∧
        (nesting vocabulary (before ++ [line])).level +
            min (closesOn line) ((nesting vocabulary before).openings.length +
              opensOn vocabulary.groupingToken line) =
          reachedLevel vocabulary before line ∧
        ((nesting vocabulary before).level < reachedLevel vocabulary before line ↔
          vocabulary.groupingToken.toList <:+: trim line)) ∧
    (1 < state.deepest ↔ state.problems ≠ []) ∧
    (state.problems ≠ [] →
      IsGreatest {level | ∃ problem ∈ state.problems, problem.level = level} state.deepest) ∧
    state.problems.Pairwise (·.line < ·.line) ∧
    (∀ problem, problem ∈ state.problems ↔ problem.Arises vocabulary lines) ∧
    ∀ more, state.deepest ≤ (nesting vocabulary (lines ++ more)).deepest ∧
      state.problems <+: (nesting vocabulary (lines ++ more)).problems := by
  intro state
  have hstate : state.IsConsistent := isConsistent_nesting vocabulary lines
  refine ⟨fun before line _ => ⟨level_nesting vocabulary _, level_add_popped vocabulary before line,
      level_lt_reachedLevel_iff vocabulary⟩, hstate.one_lt_deepest_iff, hstate.isGreatest_deepest,
    pairwise_problems vocabulary lines, fun problem => mem_problems_iff vocabulary, fun more => ?_⟩
  obtain ⟨hproblems, hdeepest⟩ := problems_isPrefix_append vocabulary lines more
  exact ⟨hdeepest, hproblems⟩

end Problems

/-- A block with a grouping inside another one, which a brace closes. -/
def nestedBlock : List Line :=
  ["CombineReducers(", "  AFeature()", "  CombineReducers(\x7b", "    BFeature()", "  \x7d)",
    ")"].map String.toList

/-- The inner grouping is the one problem of the block, and stays its first one below the line of a
third grouping. -/
theorem nesting_levels_nestedBlock :
    (nesting {} nestedBlock).problems = [⟨3, 2⟩] ∧
    IsGreatest {level | ∃ problem ∈ (nesting {} nestedBlock).problems, problem.level = level}
      (nesting {} nestedBlock).deepest ∧
    (∀ problem : NestingProblem, problem.Arises {} nestedBlock ↔ problem = ⟨3, 2⟩) ∧
    [⟨3, 2⟩] <+: (nesting {} (nestedBlock ++ ["CombineReducers(".toList])).problems ∧
    (nesting {} (nestedBlock ++ ["CombineReducers(".toList])).problems = [⟨3, 2⟩, ⟨7, 2⟩] := by
  have hproblems : (nesting {} nestedBlock).problems = [⟨3, 2⟩] := by decide +kernel
  obtain ⟨-, -, hgreatest, -, harises, hmore⟩ := nesting_levels {} nestedBlock
  have hprefix := (hmore ["CombineReducers(".toList]).2
  rw [hproblems] at hprefix
  refine ⟨hproblems, hgreatest (by rw [hproblems]; exact List.cons_ne_nil _ _), fun problem => ?_,
    hprefix, by decide +kernel⟩
  rw [← harises, hproblems, List.mem_singleton]

end PackageLint.Source
