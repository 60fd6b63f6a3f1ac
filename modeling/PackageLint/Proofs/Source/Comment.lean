import Mathlib
import PackageLint.Proofs.Source.Block
import PackageLint.Proofs.Source.Verdict
import PackageLint.Proofs.Text.Trim

/-!
# Comments and the findings on a source

Triggers and dependencies are looked for in the code of a line, so the findings on a source and on
the same source without its comments can differ only in what is said of bodies and builders. These
are measured with their comments, of which some count: a grouping token anywhere, a token that
marks or unmarks a component, a condition.

## Main definitions

* `withoutComments`: a text with every line cut before its comment;
* `IsSilent`: the comment on a line makes no difference to what is measured on it;
* `StandsAlone`: the line is a comment without a grouping token.

## Main results

* `isBlankOrComment_iff`: what blank lines and comments are;
* `measure_map`: the measure of a block stays where what is measured on its lines does;
* `check_withoutComments_of_isSilent`: silent comments never change the findings;
* `StandsAlone.isSilent`: a comment on a line of its own is silent unless it groups;
* `check_withoutComments_eq_iff`: when the findings on a text are those without its comments.
-/

namespace PackageLint.Source

open Text

/-- A text with every line cut before its comment. -/
def withoutComments (text : List Char) : List Char :=
  joinLines ((splitLines text).map withoutComment)

/-! ## Lines without their comments -/

/-- What is left of a line without its comment starts as the line does. -/
theorem exists_eq_cons_of_commentlessFrom {inText : Bool} {line rest : Line} {c : Char}
    (h : commentlessFrom inText line = c :: rest) : ∃ more, line = c :: more := by
  have hprefix := commentlessFrom_isPrefix inText line
  rw [h] at hprefix
  obtain ⟨more, rfl⟩ := hprefix
  exact ⟨rest ++ more, rfl⟩

/-- What is left of a line without its comment has no comment. -/
theorem commentlessFrom_commentlessFrom (inText : Bool) (line : Line) :
    commentlessFrom inText (commentlessFrom inText line) = commentlessFrom inText line := by
  fun_induction commentlessFrom inText line with
  | case1 => simp [commentlessFrom]
  | case2 c rest ih => simp [commentlessFrom, ih]
  | case3 c rest h ih =>
    -- The character behind a last backslash is kept, so nothing new is protected.
    rw [commentlessFrom.eq_3, ih]
    intro d others hc hrest
    obtain ⟨more, hmore⟩ := exists_eq_cons_of_commentlessFrom hrest
    exact h d more hc hmore
  | case4 rest ih => simp [commentlessFrom, ih]
  | case5 => simp [commentlessFrom]
  | case6 c rest hquote hslash ih =>
    rw [commentlessFrom.eq_6 _ _ hquote, ih]
    intro others hc hrest
    obtain ⟨more, hmore⟩ := exists_eq_cons_of_commentlessFrom hrest
    exact hslash more hc hmore

@[simp] theorem withoutComment_withoutComment (line : Line) :
    withoutComment (withoutComment line) = withoutComment line :=
  commentlessFrom_commentlessFrom false line

/-- The lines of a text without comments are those of the text without theirs, but for a last one
that is empty. -/
theorem splitLines_withoutComments_or (text : List Char) :
    splitLines (withoutComments text) = (splitLines text).map withoutComment ∨
      splitLines (withoutComments text) ++ [[]] = (splitLines text).map withoutComment := by
  refine splitLines_joinLines_or fun line hline c hc => ?_
  obtain ⟨whole, hwhole, rfl⟩ := List.mem_map.1 hline
  exact not_isLineEnd_of_mem_splitLines text whole hwhole c
    ((withoutComment_isPrefix whole).subset hc)

/-- Every line of a text has the same code without the comments. -/
theorem withoutComment_getD_splitLines_withoutComments (text : List Char) (index : Nat) :
    withoutComment ((splitLines (withoutComments text)).getD index []) =
      withoutComment ((splitLines text).getD index []) := by
  have hlines : (splitLines (withoutComments text)).getD index [] =
      ((splitLines text).map withoutComment).getD index [] := by
    rcases splitLines_withoutComments_or text with h | h
    · rw [h]
    · rw [← h]
      rcases lt_or_ge index (splitLines (withoutComments text)).length with hindex | hindex
      · rw [List.getD_append _ _ _ _ hindex]
      · rw [List.getD_append_right _ _ _ _ hindex, List.getD_eq_default _ _ hindex]
        cases index - (splitLines (withoutComments text)).length <;> rfl
  rw [hlines, ← withoutComment_nil, List.getD_map, withoutComment_withoutComment]
  simp

/-! ## Silent comments -/

theorem countOf_nil {needle : List Char} (h : needle ≠ []) : countOf needle [] = 0 := by
  simp [countOf, countFrom, h]

@[simp] theorem isBlankOrComment_nil : isBlankOrComment [] = true := rfl

@[simp] theorem isBlankOrComment_trim (line : Line) :
    isBlankOrComment (trim line) = isBlankOrComment line := by
  rw [isBlankOrComment, isBlankOrComment, trim_trim]

/-- A line is a blank one, or blanks at most stand in front of its comment. -/
theorem isBlankOrComment_iff {line : Line} :
    isBlankOrComment line = true ↔ (∀ c ∈ line, isBlank c = true) ∨
      ∃ blanks comment, line = blanks ++ '/' :: '/' :: comment ∧
        ∀ c ∈ blanks, isBlank c = true := by
  have hcomment : "//".toList.isPrefixOf (trim line) = true ↔
      ∃ blanks comment, line = blanks ++ '/' :: '/' :: comment ∧
        ∀ c ∈ blanks, isBlank c = true := by
    rw [List.isPrefixOf_iff_prefix]
    constructor
    · rintro ⟨more, hmore⟩
      -- Trimming takes blanks off both ends, and only those in front stay in front of the comment.
      obtain ⟨front, back, hline, hfront, -⟩ := exists_eq_append_trim line
      refine ⟨front, more ++ back, ?_, hfront⟩
      rw [hline, ← hmore]
      simp
    · rintro ⟨blanks, comment, rfl, hblanks⟩
      rw [trim_append_cons hblanks (by decide), trimEnd_cons (by decide)]
      exact ⟨trimEnd comment, rfl⟩
  rw [isBlankOrComment, Bool.or_eq_true, hcomment, List.isEmpty_iff, trim_eq_nil_iff]

/-- The comment on a line makes no difference to what is measured on it. -/
structure IsSilent (vocabulary : Vocabulary) (line : Line) : Prop where
  braceDelta_eq : braceDelta (withoutComment line) = braceDelta line
  groupings : countOf vocabulary.groupingToken.toList (trim (withoutComment line)) =
    countOf vocabulary.groupingToken.toList (trim line)
  closings : closingBraces (trim (withoutComment line)) = closingBraces (trim line)
  implicit : isImplicit vocabulary (withoutComment line) = isImplicit vocabulary line
  conditional : isConditional vocabulary (withoutComment line) = isConditional vocabulary line
  component :
    isBuilderComponent vocabulary (withoutComment line) = isBuilderComponent vocabulary line

section Silent

variable {vocabulary : Vocabulary} {lines : List Line}

/-- Lines that nest as others do make a block that nests as theirs does. -/
theorem Nesting.run_map {token : String} {f : Line → Line}
    (h : ∀ line ∈ lines, ∀ (state : Nesting) (index : Nat),
      state.step token index (f line) = state.step token index line)
    (state : Nesting) (index : Nat) :
    Nesting.run token state index (lines.map f) = Nesting.run token state index lines := by
  induction lines generalizing state index with
  | nil => rfl
  | cons line lines ih =>
    rw [List.forall_mem_cons] at h
    rw [List.map_cons, Nesting.run, Nesting.run, h.1, ih h.2]

/-- The measure of a block stays if what is measured on each of its lines does. -/
theorem measure_map {f : Line → Line}
    (hnesting : ∀ line ∈ lines, ∀ (state : Nesting) (index : Nat),
      state.step vocabulary.groupingToken index (f line) =
        state.step vocabulary.groupingToken index line)
    (himplicit : ∀ line ∈ lines, isImplicit vocabulary (f line) = isImplicit vocabulary line)
    (hconditional : ∀ line ∈ lines,
      isConditional vocabulary (f line) = isConditional vocabulary line)
    (hcomponent : ∀ line ∈ lines,
      isBuilderComponent vocabulary (f line) = isBuilderComponent vocabulary line) :
    measure vocabulary (lines.map f) = measure vocabulary lines := by
  -- A count depends on nothing but the test of each line.
  have hcount : ∀ {p : Line → Bool}, (∀ line ∈ lines, p (f line) = p line) →
      lines.countP (p ∘ f) = lines.countP p := by
    intro p hp
    exact List.countP_congr fun line hline => by rw [Function.comp, hp line hline]
  simp only [measure, nesting, implicitCount, conditionalCount, componentCount,
    Nesting.run_map hnesting, List.countP_map, hcount himplicit, hcount hconditional,
    hcount hcomponent]

/-- Silent comments do not change what is measured. -/
theorem measure_map_withoutComment (h : ∀ line ∈ lines, IsSilent vocabulary line) :
    measure vocabulary (lines.map withoutComment) = measure vocabulary lines := by
  refine measure_map (fun line hline state index => ?_) (fun line hline => (h line hline).implicit)
    (fun line hline => (h line hline).conditional) fun line hline => (h line hline).component
  simp only [Nesting.step, (h line hline).groupings, (h line hline).closings]

theorem Nesting.run_append (token : String) (state : Nesting) (index : Nat) (xs ys : List Line) :
    Nesting.run token state index (xs ++ ys) =
      Nesting.run token (Nesting.run token state index xs) (index + xs.length) ys := by
  induction xs generalizing state index with
  | nil => rfl
  | cons line xs ih =>
    rw [List.cons_append, Nesting.run, ih, Nesting.run, List.length_cons, Nat.add_assoc,
      Nat.add_comm 1]

/-- An empty line groups nothing. -/
theorem Nesting.step_nil {token : String} (htoken : token ≠ "") (state : Nesting) (index : Nat) :
    state.step token index [] = state := by
  have hcount : countOf token.toList [] = 0 := countOf_nil (by simpa using htoken)
  simp [Nesting.step, hcount, Nesting.openGroups, Nesting.closeGroups, closingBraces]

/-- An empty line behind all others is not measured. -/
theorem measure_append_nil (hgrouping : vocabulary.groupingToken ≠ "") (lines : List Line) :
    measure vocabulary (lines ++ [[]]) = measure vocabulary lines := by
  simp [measure, nesting, implicitCount, conditionalCount, componentCount, Nesting.run_append,
    Nesting.run, Nesting.step_nil hgrouping, isImplicit, isConditional, isBuilderComponent]

theorem measureBehind_append_nil (hgrouping : vocabulary.groupingToken ≠ "") (lines : List Line)
    (index : Nat) :
    measureBehind vocabulary (lines ++ [[]]) index = measureBehind vocabulary lines index := by
  rw [measureBehind, measureBehind, List.drop_append]
  cases index + 1 - lines.length with
  | zero =>
    rcases blockFrom_append_singleton_or 0 false (lines.drop (index + 1)) [] with h | h
    · rw [List.drop_zero, block, h, block]
    · rw [List.drop_zero, block, h, measure_append_nil hgrouping, block]
  | succ k => simp

/-- Silent comments do not change the measure of a block. -/
theorem measureBehind_map_withoutComment (h : ∀ line ∈ lines, IsSilent vocabulary line)
    (index : Nat) :
    measureBehind vocabulary (lines.map withoutComment) index =
      measureBehind vocabulary lines index := by
  have hrest : ∀ line ∈ lines.drop (index + 1), IsSilent vocabulary line :=
    fun line hline => h line (List.mem_of_mem_drop hline)
  rw [measureBehind, measureBehind, ← List.map_drop, block,
    blockFrom_map fun line hline => (hrest line hline).braceDelta_eq]
  exact measure_map_withoutComment fun line hline =>
    hrest line ((block_isPrefix _).subset hline)

end Silent

/-- Silent comments never change the findings on a text. -/
theorem check_withoutComments_of_isSilent {vocabulary : Vocabulary} {text : List Char}
    (hgrouping : vocabulary.groupingToken ≠ "")
    (h : ∀ line ∈ splitLines text, IsSilent vocabulary line) (file : String) :
    check vocabulary file (withoutComments text) = check vocabulary file text := by
  have hmeasure : ∀ index, measureBehind vocabulary (splitLines (withoutComments text)) index =
      measureBehind vocabulary (splitLines text) index := by
    intro index
    rw [← measureBehind_map_withoutComment h]
    -- Leaving comments out may leave an empty last line out, which is no part of any measure.
    rcases splitLines_withoutComments_or text with hlines | hlines
    · rw [hlines]
    · rw [← hlines, measureBehind_append_nil hgrouping]
  have hcode := withoutComment_getD_splitLines_withoutComments text
  refine (checkLines_eq_iff hcode).2 fun index => ⟨fun _ => ?_, fun _ => ?_⟩
  · rw [hmeasure index]
    exact ⟨rfl, rfl⟩
  · rw [hmeasure index]
    exact ⟨rfl, rfl⟩

/-! ## Comments on lines of their own -/

/-- The line is a comment, with blanks in front of it at most, and does not group. -/
structure StandsAlone (vocabulary : Vocabulary) (line : Line) : Prop where
  comment : ∃ blanks comment, line = blanks ++ '/' :: '/' :: comment ∧
    ∀ c ∈ blanks, isBlank c = true
  groupings : countOf vocabulary.groupingToken.toList (trim line) = 0

section OwnLine

variable {blanks : List Char} (hblanks : ∀ c ∈ blanks, isBlank c = true)

include hblanks

/-- Blanks in front of a line are code. -/
theorem codeChars_append_of_isBlank (rest : Line) :
    codeChars (blanks ++ rest) = blanks ++ codeChars rest := by
  induction blanks with
  | nil => rfl
  | cons c blanks ih =>
    rw [List.forall_mem_cons] at hblanks
    rw [List.cons_append, codeChars, codeFrom.eq_7, ← codeChars, ih hblanks.2, List.cons_append]
    · rintro rfl
      exact absurd hblanks.1 (by decide)
    · rintro _ rfl
      exact absurd hblanks.1 (by decide)
    · rintro _ _ rfl
      exact absurd hblanks.1 (by decide)

/-- Blanks in front of a line are kept. -/
theorem withoutComment_append_of_isBlank (rest : Line) :
    withoutComment (blanks ++ rest) = blanks ++ withoutComment rest := by
  induction blanks with
  | nil => rfl
  | cons c blanks ih =>
    rw [List.forall_mem_cons] at hblanks
    rw [List.cons_append, withoutComment, commentlessFrom.eq_6, ← withoutComment, ih hblanks.2,
      List.cons_append]
    · rintro rfl
      exact absurd hblanks.1 (by decide)
    · rintro _ rfl
      exact absurd hblanks.1 (by decide)

end OwnLine

/-- A comment on a line of its own is silent unless it groups. -/
theorem StandsAlone.isSilent {vocabulary : Vocabulary} {line : Line}
    (h : StandsAlone vocabulary line) : IsSilent vocabulary line := by
  obtain ⟨⟨blanks, comment, rfl, hblanks⟩, hgrouping⟩ := h
  have htrim : trim (blanks ++ '/' :: '/' :: comment) = '/' :: '/' :: trimEnd comment := by
    rw [trim_append_cons hblanks (by decide), trimEnd_cons (by decide)]
  have hcut : withoutComment (blanks ++ '/' :: '/' :: comment) = blanks := by
    rw [withoutComment_append_of_isBlank hblanks]
    simp [withoutComment, commentlessFrom]
  have hblank : trim blanks = [] := trim_eq_nil_iff.2 hblanks
  have hcomment : isBlankOrComment ('/' :: '/' :: trimEnd comment) = true := by
    rw [← htrim, isBlankOrComment_trim]
    exact isBlankOrComment_iff.2 (.inr ⟨blanks, comment, rfl, hblanks⟩)
  rw [htrim] at hgrouping
  -- An empty token would be found in every comment.
  have htoken : vocabulary.groupingToken.toList ≠ [] := by
    intro hempty
    simp [hempty, countOf, countFrom] at hgrouping
  constructor
  · have hcode := codeChars_append_of_isBlank hblanks []
    rw [List.append_nil, codeChars_nil, List.append_nil] at hcode
    rw [hcut, braceDelta, braceDelta, hcode, codeChars_append_of_isBlank hblanks]
    simp
  · rw [hcut, hblank, htrim, hgrouping, countOf_nil htoken]
  · simp [hcut, hblank, htrim, closingBraces]
  · simp only [isImplicit, hcut, hblank, htrim, hcomment, isBlankOrComment_nil]
    rfl
  · simp only [isConditional, hcut, hblank, htrim, hcomment, isBlankOrComment_nil]
    rfl
  · simp only [isBuilderComponent, hcut, hblank, htrim, hcomment, isBlankOrComment_nil]
    rfl

/-- A line without a comment is silent. -/
theorem isSilent_of_withoutComment_eq {vocabulary : Vocabulary} {line : Line}
    (h : withoutComment line = line) : IsSilent vocabulary line := by
  constructor <;> rw [h]

/-- The findings on a text are those on it without its comments exactly if the bodies and builders
that it opens are alike with their comments and without. They are where all comments stand on lines
of their own and none of them groups. -/
theorem check_withoutComments_eq_iff (vocabulary : Vocabulary) (file : String) (text : List Char) :
    (check vocabulary file (withoutComments text) = check vocabulary file text ↔
      ∀ index, OpensAlike vocabulary (splitLines (withoutComments text)) (splitLines text) index) ∧
    (vocabulary.groupingToken ≠ "" →
      (∀ line ∈ splitLines text, withoutComment line = line ∨ StandsAlone vocabulary line) →
      check vocabulary file (withoutComments text) = check vocabulary file text) := by
  refine ⟨checkLines_eq_iff (withoutComment_getD_splitLines_withoutComments text), ?_⟩
  intro hgrouping hlines
  refine check_withoutComments_of_isSilent hgrouping (fun line hline => ?_) file
  rcases hlines line hline with hcode | halone
  · exact isSilent_of_withoutComment_eq hcode
  · exact halone.isSilent

/-- A body of three lines, the last of which is a reducer only by its comment. -/
def commentedBody : List Char :=
  ("var body: some ReducerOf<Self> \x7b\n  AFeature()\n  BFeature()\n" ++
    "  child // was Reduce(core)\n\x7d\n").toList

/-- A comment makes a finding. -/
theorem check_withoutComments_commentedBody :
    check {} "App.swift" (withoutComments commentedBody) ≠ check {} "App.swift" commentedBody := by
  decide +kernel

end PackageLint.Source
