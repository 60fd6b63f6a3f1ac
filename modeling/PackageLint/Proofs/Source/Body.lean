import Mathlib
import PackageLint.Proofs.Source.Block
import PackageLint.Proofs.Source.Verdict

/-!
# Which lines a reducer body is judged by

The block behind the line that opens a body is taken from the next line on, when the brace of the
body is open already and not counted. A body without braces of its own is therefore judged by its
lines and by those behind it, up to where these close a block of their own, and a body with braces
of its own by its first lines, up to where the first of its own blocks is closed.

## Main definitions

* `BodySource`: the lines of a source around a reducer body, with the body closed by its own brace;
* `BodySource.own`: the lines of the body;
* `BodySource.judged`: the lines that it is judged by.

## Main results

* `BodySource.block_eq_judged`: the block behind the opening line is what the body is judged by;
* `BodySource.judged_eq_own_iff`: it is the body only if this one has no braces and ends the source;
* `bodyVerdictAt_bodySource`: the verdict on a body, and when it is the one on its own lines.
-/

namespace PackageLint.Source

variable {vocabulary : Vocabulary}

/-- A source in which a line opens a reducer body and a later one closes it. -/
structure BodySource (vocabulary : Vocabulary) where
  /-- The lines in front of the body. -/
  before : List Line
  /-- The line that opens the body. -/
  opening : Line
  /-- The lines between the opening and the closing one. -/
  inner : List Line
  /-- The line that closes the body. -/
  closing : Line
  /-- The lines behind the body. -/
  after : List Line
  opens : opensBody vocabulary opening = true
  braceDelta_opening : braceDelta opening = 1
  /-- What is closed between the two lines has been opened there. -/
  netDelta_nonneg : ∀ part, part <+: inner → 0 ≤ netDelta part
  netDelta_inner : netDelta inner = 0
  braceDelta_closing : braceDelta closing = -1

namespace BodySource

variable (source : BodySource vocabulary)

/-- All lines. -/
def lines : List Line :=
  source.before ++ source.opening :: (source.inner ++ source.closing :: source.after)

/-- The lines of the body. -/
def own : List Line := source.inner ++ [source.closing]

/-- The lines that the body is judged by. -/
def judged : List Line :=
  if rises source.inner then block source.inner
  else source.inner ++ block (source.closing :: source.after)

theorem lines_getD_length : source.lines.getD source.before.length [] = source.opening := by
  simp [lines]

theorem drop_lines :
    source.lines.drop (source.before.length + 1) =
      source.inner ++ source.closing :: source.after := by
  simp [lines, List.drop_append, List.drop_eq_nil_of_le]

/-- A closing line that closes nothing is taken, and the block is opened behind it. -/
theorem block_closing_cons :
    block (source.closing :: source.after) =
      source.closing :: blockFrom (-1) false source.after := by
  simp [block, blockFrom, source.braceDelta_closing]

/-- The block behind the opening line is what the body is judged by. -/
theorem block_eq_judged :
    block (source.inner ++ source.closing :: source.after) = source.judged := by
  rw [judged]
  split_ifs with hrises
  -- The inner lines close what they open, so the block ends among them.
  · have hclosed : isClosed source.inner = true := by
      rw [isClosed, hrises, source.netDelta_inner]
      rfl
    exact block_append_of_isClosed _ hclosed
  -- They open nothing, so the block is still to be opened when the body is closed.
  · exact block_append_of_not_rises _ (Bool.eq_false_iff.2 hrises) source.netDelta_inner

/-- A body with braces of its own is judged by some of its first lines, and not by the last one. -/
theorem judged_isPrefix_inner (h : rises source.inner = true) :
    source.judged <+: source.inner := by
  rw [judged, if_pos h]
  exact block_isPrefix source.inner

/-- A body without braces of its own is judged by all of its lines. -/
theorem own_isPrefix_judged (h : rises source.inner = false) : source.own <+: source.judged := by
  rw [judged, if_neg (Bool.eq_false_iff.1 h), source.block_closing_cons, own]
  exact (List.prefix_append_right_inj _).2 (List.cons_prefix_cons.2 ⟨rfl, List.nil_prefix⟩)

/-- A body is judged by its own lines only if it has no braces and nothing stands behind it. -/
theorem judged_eq_own_iff :
    source.judged = source.own ↔ rises source.inner = false ∧ source.after = [] := by
  cases hrises : rises source.inner with
  | true =>
    have hlength := (source.judged_isPrefix_inner hrises).length_le
    have hne : source.judged ≠ source.own := fun h => by simp [h, own] at hlength
    simp [hne]
  | false =>
    rw [judged, if_neg (Bool.eq_false_iff.1 hrises), own, List.append_right_inj,
      source.block_closing_cons]
    cases source.after with
    | nil => simp [blockFrom]
    | cons line rest =>
      simp only [blockFrom]
      split <;> simp

end BodySource

/-- A body is judged by the block behind the line that opens it. The verdict is that on the lines
of the body as long as the two are alike, and the two are the same only for a body without braces
at the end of the source. -/
theorem bodyVerdictAt_bodySource (source : BodySource vocabulary) (file : String) :
    bodyVerdictAt vocabulary file source.lines source.before.length =
      bodyFindings (measure vocabulary source.judged) (placeAt file source.before.length) ∧
    (bodyVerdictAt vocabulary file source.lines source.before.length =
        bodyFindings (measure vocabulary source.own) (placeAt file source.before.length) ↔
      (measure vocabulary source.judged).AlikeAsBody (measure vocabulary source.own)) ∧
    (source.judged = source.own ↔ rises source.inner = false ∧ source.after = []) := by
  have hverdict : bodyVerdictAt vocabulary file source.lines source.before.length =
      bodyFindings (measure vocabulary source.judged) (placeAt file source.before.length) := by
    rw [bodyVerdictAt, source.lines_getD_length, if_pos source.opens, checkBody_eq, source.drop_lines,
      source.block_eq_judged]
  refine ⟨hverdict, ?_, source.judged_eq_own_iff⟩
  rw [hverdict]
  exact bodyFindings_eq_iff

/-- A body in which three features stand behind a reducer with a block of its own. -/
def reduceBody : BodySource {} where
  before := []
  opening := "var body: some ReducerOf<Self> \x7b".toList
  inner := ["  Reduce \x7b state, action in".toList, "    .none".toList, "  \x7d".toList,
    "  AFeature()".toList, "  BFeature()".toList, "  CFeature()".toList]
  closing := "\x7d".toList
  after := []
  opens := by decide +kernel
  braceDelta_opening := by decide +kernel
  netDelta_nonneg := by
    intro part hpart
    rw [← List.mem_inits] at hpart
    revert part
    decide +kernel
  netDelta_inner := by decide +kernel
  braceDelta_closing := by decide +kernel

/-- The body is judged by the lines of that block, and the features behind it are not counted. -/
theorem bodyVerdictAt_reduceBody :
    bodyVerdictAt {} "App.swift" reduceBody.lines reduceBody.before.length ≠
      bodyFindings (measure {} reduceBody.own) (placeAt "App.swift" reduceBody.before.length) := by
  have hactual : bodyVerdictAt {} "App.swift" reduceBody.lines reduceBody.before.length = [] := by
    decide +kernel
  have howed : (measure {} reduceBody.own).implicit = 3 := by decide +kernel
  rw [hactual, bodyFindings, howed]
  simp [implicitFindings]

end PackageLint.Source
