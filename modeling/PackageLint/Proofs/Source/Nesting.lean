import Mathlib
import PackageLint.Proofs.Source.Comment
import PackageLint.Proofs.Text.Search

/-!
# How deep groupings are nested

A grouping is open from its parenthesis to the one that closes it. The level of a block is found
without parentheses: every closing brace closes the grouping that was opened last, and a line opens
its groupings before its braces close any. Levels are therefore counted over runs of lines, as the
groupings that all of them open less the braces that all but the last one close, and they are those
of the parentheses where each closing brace comes with the parenthesis of a grouping.

## Main definitions

* `openGroupings`: the number of groupings of a text whose parentheses are open;
* `deepestGrouping`: the greatest number of them that are open at once;
* `depth`: the level of a block, line by line;
* `ClosesByBraces`: a line closes its groupings by braces.

## Main results

* `deepest_nesting`: the level of a block is what `depth` says;
* `deepest_depth_le_iff`: the level as a maximum over runs of lines;
* `depth_eq_openGroupings`: when the level is that of the parentheses;
* `deepest_nesting_le_iff`: all of this for the standard tokens, and which lines make no difference.
-/

namespace PackageLint.Source

open Text

/-! ## Groupings by their parentheses -/

/-- The open parentheses behind a text that is given backwards, the last one first, each with
whether it ends a token. -/
def openParentheses (token : List Char) : List Char → List Bool
  | [] => []
  | c :: before =>
    if c = '(' then token.reverse.isPrefixOf (c :: before) :: openParentheses token before
    else if c = ')' then (openParentheses token before).tail
    else openParentheses token before

/-- The number of groupings of a text whose parentheses are open. -/
def openGroupings (token : String) (text : List Char) : Nat :=
  (openParentheses token.toList text.reverse).count true

/-- The greatest number of groupings that are open at once in a text. -/
def deepestGrouping (token : String) (text : List Char) : Nat :=
  (text.inits.map (openGroupings token)).foldr max 0

/-- The text of a block, each line of which ends with a line feed. -/
def blockText (lines : List Line) : List Char := lines.flatMap (· ++ ['\n'])

@[simp] theorem blockText_nil : blockText [] = [] := rfl

/-- One more line of a block is more text at its end. -/
theorem blockText_append_singleton (lines : List Line) (line : Line) :
    blockText (lines ++ [line]) = blockText lines ++ (line ++ ['\n']) := by
  simp [blockText]

/-- A bound on the deepest grouping is one on the open groupings behind each first part of the
text. -/
theorem deepestGrouping_le_iff {token : String} {text : List Char} {n : Nat} :
    deepestGrouping token text ≤ n ↔ ∀ part, part <+: text → openGroupings token part ≤ n := by
  have hmax : ∀ levels : List Nat, levels.foldr max 0 ≤ n ↔ ∀ level ∈ levels, level ≤ n := by
    intro levels
    induction levels with
    | nil => simp
    | cons level levels ih => simp [ih]
  simp [deepestGrouping, hmax, List.mem_inits]

/-- The first parts of a text and more are those of the text, and the text with first parts of what
follows. -/
theorem deepestGrouping_append_le_iff {token : String} {text more : List Char} {n : Nat} :
    deepestGrouping token (text ++ more) ≤ n ↔
      deepestGrouping token text ≤ n ∧
        ∀ part, part <+: more → openGroupings token (text ++ part) ≤ n := by
  simp only [deepestGrouping_le_iff]
  refine ⟨fun h => ⟨fun part hpart => h part (hpart.trans (List.prefix_append _ _)),
    fun part hpart => h _ ((List.prefix_append_right_inj text).2 hpart)⟩, ?_⟩
  rintro ⟨htext, hmore⟩ part hpart
  rcases List.prefix_or_prefix_of_prefix hpart (List.prefix_append text more) with h | ⟨rest, rfl⟩
  · exact htext part h
  · exact hmore rest ((List.prefix_append_right_inj text).1 hpart)

section Parentheses

variable {token : String} (text : List Char)

@[simp] theorem openGroupings_nil : openGroupings token [] = 0 := rfl

/-- An opening parenthesis opens a grouping exactly if it ends the token. -/
theorem openGroupings_append_open :
    openGroupings token (text ++ ['(']) =
      openGroupings token text + if token.toList <:+ text ++ ['('] then 1 else 0 := by
  have hends : token.toList.reverse <+: '(' :: text.reverse ↔ token.toList <:+ text ++ ['('] := by
    rw [← List.reverse_prefix, List.reverse_append]
    rfl
  simp [openGroupings, openParentheses, List.count_cons, hends]

/-- A closing parenthesis opens nothing. -/
theorem openGroupings_append_close_le :
    openGroupings token (text ++ [')']) ≤ openGroupings token text := by
  rw [openGroupings, openGroupings, List.reverse_append, List.reverse_singleton,
    List.singleton_append, openParentheses, if_neg (by decide), if_pos rfl]
  exact (List.tail_sublist _).count_le true

/-- Any other character leaves the parentheses as they are. -/
theorem openGroupings_append_of_ne {c : Char} (hopen : c ≠ '(') (hclose : c ≠ ')') :
    openGroupings token (text ++ [c]) = openGroupings token text := by
  simp [openGroupings, openParentheses, hopen, hclose]

/-- Without an opening parenthesis no grouping is opened. -/
theorem openGroupings_append_le_of_notMem {part : List Char} (h : '(' ∉ part) :
    openGroupings token (text ++ part) ≤ openGroupings token text := by
  induction part using List.reverseRecOn with
  | nil => rw [List.append_nil]
  | append_singleton part c ih =>
    rw [List.mem_append, not_or, List.mem_singleton] at h
    rw [← List.append_assoc]
    refine le_trans ?_ (ih h.1)
    by_cases hclose : c = ')'
    · subst hclose
      exact openGroupings_append_close_le _
    · exact (openGroupings_append_of_ne _ (Ne.symm h.2) hclose).le

end Parentheses

/-- What ends a text that goes on with other characters than it holds stands behind it. -/
theorem isSuffix_of_isSuffix_append {body text part : List Char}
    (htext : ∀ c ∈ text.getLast?, c ∉ body) (h : body <:+ text ++ part) : body <:+ part := by
  rcases List.suffix_or_suffix_of_suffix h (List.suffix_append text part) with h' | ⟨more, rfl⟩
  · exact h'
  -- The text would have to end with what the token starts with.
  · rw [List.suffix_append_self_iff] at h
    rcases List.eq_nil_or_concat more with rfl | ⟨front, c, rfl⟩
    · exact List.suffix_rfl
    · obtain ⟨before, rfl⟩ := h
      exact absurd (by simp) (htext c (by simp))

section Token

variable {token : String} {body : List Char} (htoken : token.toList = body ++ ['('])
  (hbody : '(' ∉ body)

include htoken hbody

/-- A line opens no more groupings than it holds tokens. Here it is cut into a part without opening
parentheses and the rest. -/
theorem openGroupings_append_append_le {text front line part : List Char}
    (htext : ∀ c ∈ text.getLast?, c ∉ body) (hfront : '(' ∉ front) (hpart : part <+: line) :
    openGroupings token (text ++ front ++ part) ≤
      openGroupings token text + countOf token.toList (front ++ line) := by
  have hnone : openGroupings token (text ++ front) ≤ openGroupings token text :=
    openGroupings_append_le_of_notMem text hfront
  induction line generalizing text front part with
  | nil =>
    rw [List.prefix_nil.1 hpart, List.append_nil]
    exact Nat.le_add_right_of_le hnone
  | cons c line ih =>
    rcases List.prefix_cons_iff.1 hpart with rfl | ⟨rest, rfl, hrest⟩
    · rw [List.append_nil]
      exact Nat.le_add_right_of_le hnone
    by_cases hc : c = '('
    -- The parenthesis ends a token or none, and the rest is a line of its own.
    · subst hc
      have hopen : openGroupings token (text ++ front ++ ['(']) ≤
          openGroupings token (text ++ front) + if body <:+ front then 1 else 0 := by
        rw [openGroupings_append_open, htoken]
        simp only [List.suffix_append_self_iff]
        by_cases h : body <:+ text ++ front
        · rw [if_pos h, if_pos (isSuffix_of_isSuffix_append htext h)]
        · rw [if_neg h]
          exact Nat.le_add_right _ _
      have hline := @ih (text ++ front ++ ['(']) [] rest (by simpa using hbody) (by simp) hrest
        (by simp)
      rw [List.append_nil, List.append_assoc _ ['('], List.singleton_append, List.nil_append]
        at hline
      rw [htoken] at hline ⊢
      rw [countOf_append_cons hbody hfront]
      omega
    -- Any other character is one more of the part without them.
    · have hmore : '(' ∉ front ++ [c] := by simp [hfront, Ne.symm hc]
      have hline := @ih text (front ++ [c]) rest htext hmore hrest
        (openGroupings_append_le_of_notMem text hmore)
      simpa using hline

/-- A line opens no more groupings than it holds tokens. -/
theorem openGroupings_append_le {text line part : List Char}
    (htext : ∀ c ∈ text.getLast?, c ∉ body) (hpart : part <+: line) :
    openGroupings token (text ++ part) ≤ openGroupings token text + countOf token.toList line := by
  have hnone : '(' ∉ ([] : List Char) := List.not_mem_nil
  simpa using openGroupings_append_append_le htoken hbody htext hnone hpart

end Token

/-! ## Groupings by braces -/

/-- The number of groupings that a line opens. -/
def opensOn (token : String) (line : Line) : Nat := countOf token.toList (trim line)

/-- The number of closing braces on a line. -/
def closesOn (line : Line) : Nat := closingBraces (trim line)

/-- How many groupings are open, and how many were open at once. -/
structure Depth where
  /-- The number of groupings that are open. -/
  level : Nat := 0
  /-- The greatest number that was open at once. -/
  deepest : Nat := 0
  deriving DecidableEq, Repr

/-- The depth after one more line. -/
def Depth.step (token : String) (d : Depth) (line : Line) : Depth where
  level := d.level + opensOn token line - closesOn line
  deepest := max d.deepest (d.level + opensOn token line)

/-- The depth after the lines of a block. -/
def depth (token : String) (lines : List Line) : Depth := lines.foldl (Depth.step token) {}

@[simp] theorem depth_nil (token : String) : depth token [] = {} := rfl

/-- One more line of a block is one more step. -/
theorem depth_append_singleton (token : String) (lines : List Line) (line : Line) :
    depth token (lines ++ [line]) = (depth token lines).step token line := by
  simp [depth]

/-- No more groupings are open than were open at once. -/
theorem level_depth_le (token : String) (lines : List Line) :
    (depth token lines).level ≤ (depth token lines).deepest := by
  induction lines using List.reverseRecOn with
  | nil => exact Nat.le_refl 0
  | append_singleton lines line ih =>
    rw [depth_append_singleton, Depth.step]
    exact (Nat.sub_le _ _).trans (Nat.le_max_right _ _)

/-- The state of the groupings of a block has a depth. -/
structure Nesting.HasDepth (state : Nesting) (d : Depth) : Prop where
  level : state.level = d.level
  openings : state.openings.length = d.level
  deepest : state.deepest = d.deepest
  level_le : d.level ≤ d.deepest

namespace Nesting.HasDepth

variable {state : Nesting} {d : Depth}

/-- Opening some groupings raises the level by their number, and the deepest level as far as this is
above it. -/
theorem openGroups (h : state.HasDepth d) (index count : Nat) :
    (state.openGroups index count).HasDepth
      ⟨d.level + count, max d.deepest (d.level + count)⟩ := by
  by_cases hcount : count = 0
  · subst hcount
    rw [Nesting.openGroups, if_pos rfl, Nat.add_zero, Nat.max_eq_left h.level_le]
    exact h
  · rw [Nesting.openGroups, if_neg hcount]
    have hopenings : (List.replicate count index ++ state.openings).length = d.level + count := by
      rw [List.length_append, List.length_replicate, h.openings, Nat.add_comm]
    exact ⟨by rw [h.level], hopenings, by rw [h.deepest, h.level], Nat.le_max_right _ _⟩

/-- Closing some groupings lowers the level, at most to zero, and leaves the deepest level. -/
theorem closeGroups (h : state.HasDepth d) (count : Nat) :
    (state.closeGroups count).HasDepth ⟨d.level - count, d.deepest⟩ := by
  have hlevel : d.level - min count d.level = d.level - count := by omega
  refine ⟨?_, ?_, h.deepest, (Nat.sub_le _ _).trans h.level_le⟩
  · rw [Nesting.closeGroups, h.level, h.openings, hlevel]
  · rw [Nesting.closeGroups, List.length_drop, h.openings, hlevel]

/-- One more line changes the depth as it does the state. -/
theorem step (h : state.HasDepth d) (token : String) (index : Nat) (line : Line) :
    (state.step token index line).HasDepth (d.step token line) :=
  (h.openGroups index (opensOn token line)).closeGroups (closesOn line)

end Nesting.HasDepth

/-- The depth keeps up with the state over any lines, by one step for each. -/
theorem Nesting.HasDepth.run {state : Nesting} {d : Depth} (h : state.HasDepth d) (token : String)
    (index : Nat) (lines : List Line) :
    (Nesting.run token state index lines).HasDepth (lines.foldl (Depth.step token) d) := by
  induction lines generalizing state d index with
  | nil => exact h
  | cons line lines ih => exact ih (h.step token index line) (index + 1)

/-- The groupings of a block have its depth. -/
theorem hasDepth_nesting (vocabulary : Vocabulary) (lines : List Line) :
    (nesting vocabulary lines).HasDepth (depth vocabulary.groupingToken lines) := by
  have hstart : Nesting.HasDepth {} {} := ⟨rfl, rfl, rfl, Nat.le_refl 0⟩
  exact hstart.run vocabulary.groupingToken 0 lines

/-- The level of a block is the greatest number of groupings that were open at once. -/
theorem deepest_nesting (vocabulary : Vocabulary) (lines : List Line) :
    (nesting vocabulary lines).deepest = (depth vocabulary.groupingToken lines).deepest :=
  (hasDepth_nesting vocabulary lines).deepest

/-! ## Levels as maxima over runs of lines -/

/-- The number of groupings that some lines open. -/
def opened (token : String) (lines : List Line) : Nat := (lines.map (opensOn token)).sum

/-- The number of closing braces on some lines. -/
def closed (lines : List Line) : Nat := (lines.map closesOn).sum

/-- One more line adds the groupings that it opens. -/
theorem opened_append_singleton (token : String) (lines : List Line) (line : Line) :
    opened token (lines ++ [line]) = opened token lines + opensOn token line := by
  simp [opened]

/-- One more line adds the braces that it closes with. -/
theorem closed_append_singleton (lines : List Line) (line : Line) :
    closed (lines ++ [line]) = closed lines + closesOn line := by
  simp [closed]

/-- As many groupings are open as some last lines open, less the braces on them. -/
theorem level_depth_add_le_iff {token : String} {lines : List Line} {more n : Nat} :
    (depth token lines).level + more ≤ n ↔
      ∀ part, part <:+ lines → opened token part + more ≤ n + closed part := by
  induction lines using List.reverseRecOn generalizing more n with
  | nil => simp [opened, closed]
  | append_singleton lines line ih =>
    -- What the last line opens counts against it, and what it closes counts for the lines before.
    have hline := @ih (opensOn token line + more) (n + closesOn line)
    have hstep : (depth token (lines ++ [line])).level + more ≤ n ↔
        more ≤ n ∧ (depth token lines).level + (opensOn token line + more) ≤ n + closesOn line := by
      simp only [depth_append_singleton, Depth.step]
      omega
    rw [hstep, hline]
    constructor
    · rintro ⟨hnone, h⟩ part hpart
      rcases List.suffix_concat_iff.1 hpart with rfl | ⟨front, rfl, hfront⟩
      · simpa [opened, closed] using hnone
      · have hbound := h front hfront
        rw [opened_append_singleton, closed_append_singleton]
        omega
    · intro h
      refine ⟨by simpa [opened, closed] using h [] List.nil_suffix, fun front hfront => ?_⟩
      have hbound := h (front ++ [line]) (List.suffix_append_self_iff.2 hfront)
      rw [opened_append_singleton, closed_append_singleton] at hbound
      omega

/-- The level of a block as a maximum over runs of lines: what all of them open, less the braces
that all but the last one close. -/
theorem deepest_depth_le_iff {token : String} {lines : List Line} {n : Nat} :
    (depth token lines).deepest ≤ n ↔ ∀ part line, part ++ [line] <:+: lines →
      opened token (part ++ [line]) ≤ n + closed part := by
  induction lines using List.reverseRecOn with
  | nil => simp
  | append_singleton lines last ih =>
    rw [depth_append_singleton, Depth.step, Nat.max_le, ih, level_depth_add_le_iff]
    constructor
    -- A run of lines ends with the last line or in front of it.
    · rintro ⟨hinner, hlast⟩ part line hrun
      rcases List.infix_concat_iff.1 hrun with hrun | hrun
      · have hlength : [line].length = [last].length := rfl
        obtain ⟨hpart, hline⟩ := (List.suffix_append_inj_of_length_eq hlength).1 hrun
        obtain rfl : line = last := by simpa using hline
        rw [opened_append_singleton]
        exact hlast part hpart
      · exact hinner part line hrun
    · refine fun h => ⟨fun part line hrun => h part line (List.infix_append_of_infix_left hrun),
        fun part hpart => ?_⟩
      have hbound := h part last (List.suffix_append_self_iff.2 hpart).isInfix
      rwa [opened_append_singleton] at hbound

/-! ## Where braces close groupings as parentheses do -/

/-- There are no texts, no quoted characters and no comments on a line. -/
structure IsPlain (line : Line) : Prop where
  doubleQuote : '"' ∉ line
  quote : '\'' ∉ line
  comment : ¬ ['/', '/'] <:+: line

instance (line : Line) : Decidable (IsPlain line) :=
  decidable_of_iff ('"' ∉ line ∧ '\'' ∉ line ∧ ¬ ['/', '/'] <:+: line)
    ⟨fun h => ⟨h.1, h.2.1, h.2.2⟩, fun h => ⟨h.1, h.2, h.3⟩⟩

/-- A part of a plain line is plain. -/
theorem IsPlain.of_isInfix {line part : Line} (h : IsPlain line) (hpart : part <:+: line) :
    IsPlain part where
  doubleQuote := fun hmem => h.doubleQuote (hpart.subset hmem)
  quote := fun hmem => h.quote (hpart.subset hmem)
  comment := fun hcomment => h.comment (hcomment.trans hpart)

/-- All of a plain line is code. -/
theorem IsPlain.codeChars_eq {line : Line} (h : IsPlain line) : codeChars line = line := by
  induction line with
  | nil => exact codeChars_nil
  | cons c line ih =>
    have hline := ih (h.of_isInfix (List.suffix_cons c line).isInfix)
    rw [codeChars, codeFrom.eq_7, ← codeChars, hline]
    · rintro rfl
      exact h.doubleQuote List.mem_cons_self
    · rintro rest rfl rfl
      exact h.comment ⟨[], rest, rfl⟩
    · rintro d rest rfl -
      exact h.quote List.mem_cons_self

/-- The closing braces of a plain line are those it holds. -/
theorem IsPlain.closesOn_eq {line : Line} (h : IsPlain line) :
    closesOn line = line.count '\x7d' := by
  obtain ⟨front, back, hline, hfront, hback⟩ := exists_eq_append_trim line
  have hnone : ∀ blanks : List Char, (∀ b ∈ blanks, isBlank b = true) →
      blanks.count '\x7d' = 0 := by
    intro blanks hblanks
    rw [List.count_eq_zero]
    intro hmem
    exact absurd (hblanks _ hmem) (by decide)
  have htrim : IsPlain (trim line) := h.of_isInfix ⟨front, back, hline.symm⟩
  rw [closesOn, closingBraces, htrim.codeChars_eq]
  conv_rhs => rw [hline, List.count_append, List.count_append, hnone front hfront,
    hnone back hback, Nat.zero_add, Nat.add_zero]

/-- Behind a text, a line opens its groupings before it closes any, and closes as many as it has
closing braces, or all that are open if there are fewer. -/
def ClosesByBraces (token : String) (before : List Char) (line : Line) : Prop :=
  (∃ part ∈ line.inits, openGroupings token (before ++ part) =
    openGroupings token before + opensOn token line) ∧
  openGroupings token (before ++ line) =
    openGroupings token before + opensOn token line - line.count '\x7d'

instance (token : String) (before : List Char) (line : Line) :
    Decidable (ClosesByBraces token before line) :=
  inferInstanceAs (Decidable (_ ∧ _))

/-- The text of a block ends with a line end, so no token reaches from one line into the next. -/
theorem getLast?_blockText {lines : List Line} : ∀ c ∈ (blockText lines).getLast?, c = '\n' := by
  induction lines using List.reverseRecOn with
  | nil => nofun
  | append_singleton lines line ih =>
    rw [blockText_append_singleton, ← List.append_assoc, List.getLast?_concat]
    simp

/-- The groupings that are open behind a block, and the most that are open at once in it, are those
that braces give where each line closes its groupings by braces. -/
theorem depth_eq_openGroupings {token : String} {body : List Char}
    (htoken : token.toList = body ++ ['(']) (hbody : '(' ∉ body)
    (hblank : ∀ c ∈ body ++ ['('], isBlank c = false) {lines : List Line}
    (hplain : ∀ line ∈ lines, IsPlain line)
    (hcloses : ∀ index (h : index < lines.length),
      ClosesByBraces token (blockText (lines.take index)) lines[index]) :
    depth token lines =
      ⟨openGroupings token (blockText lines), deepestGrouping token (blockText lines)⟩ := by
  induction lines using List.reverseRecOn with
  | nil => rfl
  | append_singleton lines line ih =>
    have hbefore := ih (fun line hline => hplain line (List.mem_append_left _ hline))
      fun index h => by
        have hindex := hcloses index (by simp; omega)
        rwa [List.getElem_append_left h, List.take_append_of_le_length h.le] at hindex
    have hopens : opensOn token line = countOf token.toList line := by
      rw [opensOn, htoken, countOf_trim hbody hblank]
    obtain ⟨⟨top, htop, hall⟩, hafter⟩ : ClosesByBraces token (blockText lines) line := by
      have hlast := hcloses lines.length (by simp)
      rwa [List.getElem_concat_length rfl, List.take_left] at hlast
    have hend : ∀ c ∈ (blockText lines).getLast?, c ∉ body := by
      intro c hc hmem
      rw [getLast?_blockText c hc] at hmem
      exact absurd (hblank '\n' (List.mem_append_left _ hmem)) (by decide)
    have hnewline : openGroupings token (blockText lines ++ (line ++ ['\n'])) =
        openGroupings token (blockText lines ++ line) := by
      rw [← List.append_assoc, openGroupings_append_of_ne _ (by decide) (by decide)]
    -- Within the line no more groupings are open at once than it opens together with those before.
    have hdeepest : ∀ n, (∀ part, part <+: line ++ ['\n'] →
        openGroupings token (blockText lines ++ part) ≤ n) ↔
        openGroupings token (blockText lines) + opensOn token line ≤ n := by
      refine fun n => ⟨fun h => ?_, fun h part hpart => ?_⟩
      · rw [← hall]
        exact h top ((List.mem_inits _ _ |>.1 htop).trans (List.prefix_append _ _))
      · refine le_trans ?_ h
        rw [hopens]
        rcases List.prefix_concat_iff.1 hpart with rfl | hpart
        · rw [hnewline]
          exact openGroupings_append_le htoken hbody hend (List.prefix_refl line)
        · exact openGroupings_append_le htoken hbody hend hpart
    rw [depth_append_singleton, hbefore, Depth.step, blockText_append_singleton, hnewline, hafter,
      (hplain line (by simp)).closesOn_eq]
    congr 1
    refine eq_of_forall_ge_iff fun n => ?_
    rw [Nat.max_le, deepestGrouping_append_le_iff, hdeepest]

/-! ## Lines without groupings -/

/-- A line that opens and closes nothing makes no difference wherever it stands. -/
theorem depth_append_cons_of_none {token : String} {line : Line} (hopens : opensOn token line = 0)
    (hcloses : closesOn line = 0) (before after : List Line) :
    depth token (before ++ line :: after) = depth token (before ++ after) := by
  have hstep : (depth token before).step token line = depth token before := by
    have hle := level_depth_le token before
    simp only [Depth.step, hopens, hcloses, Nat.add_zero, Nat.sub_zero, Nat.max_eq_left hle]
  have hfold := congrArg (fun d => after.foldl (Depth.step token) d) hstep
  simpa [depth] using hfold

/-! ## The standard tokens -/

/-- The token that opens a grouping, unless a project sets another one. -/
def standardGroup : String := ({} : Vocabulary).groupingToken

/-- The standard token ends with its parenthesis. -/
theorem standardGroup_eq : standardGroup = "CombineReducers(" := rfl

/-- A line without groupings makes no difference wherever it stands only if it has no closing brace:
such a brace between two groupings closes the first one before the second one is opened. -/
theorem depth_append_cons_iff {line : Line} (hopens : opensOn standardGroup line = 0) :
    (∀ before after, (depth standardGroup (before ++ line :: after)).deepest =
      (depth standardGroup (before ++ after)).deepest) ↔ closesOn line = 0 := by
  refine ⟨fun h => ?_, fun hcloses before after => by
    rw [depth_append_cons_of_none hopens hcloses]⟩
  have htoken : opensOn standardGroup standardGroup.toList = 1 := by
    rw [standardGroup_eq]
    cbv
  have hbrace : closesOn standardGroup.toList = 0 := by
    rw [standardGroup_eq]
    cbv
  have hbetween := h [standardGroup.toList] [standardGroup.toList]
  simp [depth, Depth.step, hopens, htoken, hbrace] at hbetween
  omega

/-- The level of a block is the greatest number of groupings that a run of its lines opens, less the
closing braces on all of them but the last one. It is the greatest number of groupings whose
parentheses are open at once where each line of a plain block closes its groupings by braces, and
a line without groupings makes no difference wherever it stands only if it has no closing brace. -/
theorem deepest_nesting_le_iff (lines : List Line) :
    (∀ n, (nesting {} lines).deepest ≤ n ↔ ∀ part line, part ++ [line] <:+: lines →
      opened standardGroup (part ++ [line]) ≤ n + closed part) ∧
    ((∀ line ∈ lines, IsPlain line) →
      (∀ index (h : index < lines.length),
        ClosesByBraces standardGroup (blockText (lines.take index)) lines[index]) →
      (nesting {} lines).deepest = deepestGrouping standardGroup (blockText lines)) ∧
    ∀ line, opensOn standardGroup line = 0 →
      ((∀ before after, (nesting {} (before ++ line :: after)).deepest =
        (nesting {} (before ++ after)).deepest) ↔ closesOn line = 0) := by
  -- The token ends with the parenthesis it opens and has no other one, and no blank.
  have htoken : standardGroup.toList = "CombineReducers".toList ++ ['('] := by
    rw [standardGroup_eq]
    cbv
  have hbody : '(' ∉ "CombineReducers".toList := by decide
  have hblank : ∀ c ∈ standardGroup.toList, isBlank c = false := by
    have hall : standardGroup.toList.all (!isBlank ·) = true := by
      rw [standardGroup_eq]
      cbv
    simpa only [List.all_eq_true, Bool.not_eq_true'] using hall
  rw [htoken] at hblank
  simp only [deepest_nesting]
  refine ⟨fun n => deepest_depth_le_iff, fun hplain hcloses => ?_,
    fun line hopens => depth_append_cons_iff hopens⟩
  exact congrArg Depth.deepest (depth_eq_openGroupings htoken hbody hblank hplain hcloses)

/-- Groupings of closures, one inside of the other. -/
def nestedClosures : List Line :=
  ["CombineReducers(\x7b".toList, "  AFeature()".toList, "  CombineReducers(\x7b".toList,
    "    BFeature(b)".toList, "  \x7d)".toList, "\x7d)".toList]

/-- Each of these groupings is closed with the brace of its closure. -/
theorem deepest_nesting_nestedClosures :
    (∀ line ∈ nestedClosures, IsPlain line) ∧
    (∀ index (h : index < nestedClosures.length),
      ClosesByBraces standardGroup (blockText (nestedClosures.take index)) nestedClosures[index]) ∧
    (nesting {} nestedClosures).deepest =
      deepestGrouping standardGroup (blockText nestedClosures) := by
  have hplain : ∀ line ∈ nestedClosures, IsPlain line := by
    have hall : nestedClosures.all (fun line => decide (IsPlain line)) = true := by cbv
    simpa using hall
  have hcloses : ∀ index (h : index < nestedClosures.length),
      ClosesByBraces standardGroup (blockText (nestedClosures.take index))
        nestedClosures[index] := by
    decide +kernel
  exact ⟨hplain, hcloses, (deepest_nesting_le_iff nestedClosures).2.1 hplain hcloses⟩

/-- Groupings one after the other. -/
def siblingGroupings : List Line :=
  ["CombineReducers(AFeature())".toList, "CombineReducers(BFeature())".toList]

/-- Without braces groupings one after the other are taken for nested ones. -/
theorem deepest_nesting_siblingGroupings :
    (nesting {} siblingGroupings).deepest ≠
      deepestGrouping standardGroup (blockText siblingGroupings) := by
  have hlevel : (nesting {} siblingGroupings).deepest = 2 := by
    rw [deepest_nesting, ← standardGroup, standardGroup_eq]
    cbv
  have hdeepest : deepestGrouping standardGroup (blockText siblingGroupings) = 1 := by
    rw [standardGroup_eq]
    cbv
  rw [hlevel, hdeepest]
  decide

end PackageLint.Source
