import Mathlib
import PackageLint.Proofs.Source.Verdict

/-!
# Where findings stand

A line is judged by itself and by the lines behind it, so what stands above a text does not touch
the findings on it: they only move down with their lines. The findings on a source stand on its
lines, in the order of the lines.

## Main definitions

* `Diagnostic.movedDown`: the finding with its line some lines further down;
* `Diagnostic.LiesBetween`: the finding stands on one of the lines between two numbers;
* `Diagnostic.lineNumber`: the number of its line.

## Main results

* `checkLines_append`: the findings on lines below others;
* `lineNumber_pairwise_checkLines`: findings come in the order of the lines;
* `check_append_newline_append`: the findings on a text below another one.
-/

namespace PackageLint

/-- The place some lines further down. -/
def Location.movedDown (count : Nat) (l : Location) : Location :=
  { l with line := l.line.map (· + count) }

namespace Diagnostic

/-- The finding with its line some lines further down. -/
def movedDown (count : Nat) (d : Diagnostic) : Diagnostic :=
  { d with location := d.location.map (·.movedDown count) }

/-- The finding stands in a file on a line with a number from `first` to `last`. -/
def LiesBetween (file : String) (first last : Nat) (d : Diagnostic) : Prop :=
  ∃ number : Nat, first ≤ number ∧ number ≤ last ∧
    d.location = some { file, line := some (number : Int) }

/-- The number of the line that a finding stands on, zero where it names none. -/
def lineNumber (d : Diagnostic) : Int := (d.location.bind (·.line)).getD 0

end Diagnostic

namespace Source

open Text

/-! ## Verdicts move down with their lines -/

section MovedDown

variable {location : Location} (count : Nat)

theorem movedDown_finding (severity : Severity) (message suggestion : String) :
    (finding severity location message suggestion).movedDown count =
      finding severity (location.movedDown count) message suggestion := rfl

theorem placeAt_movedDown (file : String) (index : Nat) :
    (placeAt file index).movedDown count = placeAt file (count + index) := by
  simp only [placeAt, Location.movedDown, Option.map_some, Location.mk.injEq, Option.some.injEq,
    true_and]
  omega

theorem bodyFindings_movedDown (m : Measure) :
    bodyFindings m (location.movedDown count) =
      (bodyFindings m location).map (·.movedDown count) := by
  unfold bodyFindings nestingFindings implicitFindings
  split_ifs <;> simp [movedDown_finding]

theorem builderFindings_movedDown (m : Measure) :
    builderFindings m (location.movedDown count) =
      (builderFindings m location).map (·.movedDown count) := by
  unfold builderFindings scoreFindings componentFindings
  split_ifs <;> simp [movedDown_finding]

theorem nonSendableFinding_movedDown (d : Declaration) :
    nonSendableFinding (location.movedDown count) d =
      (nonSendableFinding location d).map (·.movedDown count) := by
  rw [nonSendableFinding, nonSendableFinding, Option.map_map]
  rfl

theorem dependencyFindings_movedDown (code : Line) :
    dependencyFindings (location.movedDown count) code =
      (dependencyFindings location code).map (·.movedDown count) := by
  have hnonSendable :
      ((declaration? code).bind (nonSendableFinding (location.movedDown count))).toList =
        ((declaration? code).bind (nonSendableFinding location)).toList.map
          (·.movedDown count) := by
    cases declaration? code with
    | none => rfl
    | some d =>
      rw [Option.bind_some, Option.bind_some, nonSendableFinding_movedDown, Option.toList_map]
  simp only [dependencyFindings, hnonSendable]
  split_ifs <;> simp [movedDown_finding]

end MovedDown

section Lines

variable {vocabulary : Vocabulary} {file : String}

/-- The verdict on a line below others is the one on it without them, further down. -/
theorem verdictAt_append (above lines : List Line) (index : Nat) :
    verdictAt vocabulary file (above ++ lines) (above.length + index) =
      (verdictAt vocabulary file lines index).map (·.movedDown above.length) := by
  -- A verdict reads the line itself and the lines behind it, and nothing else.
  have hline : (above ++ lines).getD (above.length + index) [] = lines.getD index [] := by
    rw [List.getD_append_right _ _ _ _ (Nat.le_add_right _ _), Nat.add_sub_cancel_left]
  have hrest : (above ++ lines).drop (above.length + index + 1) = lines.drop (index + 1) := by
    rw [Nat.add_assoc, List.drop_append, List.drop_eq_nil_of_le (Nat.le_add_right _ _),
      List.nil_append, Nat.add_sub_cancel_left]
  simp only [verdictAt, bodyVerdictAt, builderVerdictAt, dependencyVerdictAt, hline, hrest,
    List.map_append, ← placeAt_movedDown]
  congr 2
  · split_ifs
    · rw [checkBody_eq, checkBody_eq]
      exact bodyFindings_movedDown _ _
    · rfl
  · split_ifs
    · rw [checkBuilder_eq, checkBuilder_eq]
      exact builderFindings_movedDown _ _
    · rfl
  · exact dependencyFindings_movedDown _ _

/-- The findings on lines below others are those on the lines above and then those on the lines by
themselves, moved down. -/
theorem checkLines_append (above lines : List Line) :
    checkLines vocabulary file (above ++ lines) =
      (List.range above.length).flatMap (verdictAt vocabulary file (above ++ lines)) ++
        (checkLines vocabulary file lines).map (·.movedDown above.length) := by
  rw [checkLines_eq_flatMap, checkLines_eq_flatMap, List.length_append, List.range_add,
    List.flatMap_append, List.flatMap_map, List.map_flatMap]
  simp only [verdictAt_append]

/-- What is said of the first lines of a source stands on one of them. -/
theorem liesBetween_of_mem_flatMap {lines : List Line} {count : Nat} :
    ∀ d ∈ (List.range count).flatMap (verdictAt vocabulary file lines),
      d.LiesBetween file 1 count := by
  intro d hd
  obtain ⟨index, hindex, hd⟩ := List.mem_flatMap.1 hd
  have hlt : index < count := List.mem_range.1 hindex
  exact ⟨index + 1, by omega, by omega, location_of_mem_verdictAt d hd⟩

/-- Every finding stands on a line of the source. -/
theorem liesBetween_of_mem_checkLines {lines : List Line} :
    ∀ d ∈ checkLines vocabulary file lines, d.LiesBetween file 1 lines.length := by
  rw [checkLines_eq_flatMap]
  exact liesBetween_of_mem_flatMap

theorem lineNumber_of_mem_verdictAt {lines : List Line} {index : Nat} :
    ∀ d ∈ verdictAt vocabulary file lines index, d.lineNumber = (index + 1 : Nat) := by
  intro d hd
  rw [Diagnostic.lineNumber, location_of_mem_verdictAt d hd]
  rfl

/-- Findings come in the order of the lines that they stand on. -/
theorem lineNumber_pairwise_checkLines (lines : List Line) :
    (checkLines vocabulary file lines).Pairwise fun d e => d.lineNumber ≤ e.lineNumber := by
  rw [checkLines_eq_flatMap, List.pairwise_flatMap]
  constructor
  -- Within a line all findings have the same number.
  · intro index _
    refine List.pairwise_of_forall_mem_list fun d hd e he => ?_
    rw [lineNumber_of_mem_verdictAt d hd, lineNumber_of_mem_verdictAt e he]
  -- Between lines the numbers go up.
  · refine List.pairwise_lt_range.imp fun {i j} hij d hd e he => ?_
    rw [lineNumber_of_mem_verdictAt d hd, lineNumber_of_mem_verdictAt e he]
    omega

end Lines

/-- The findings on a text below another one that ends its last line are findings on the lines above
and then those on the text by itself, moved down by the number of these lines. On every text the
findings stand on its lines and come in their order. -/
theorem check_append_newline_append (vocabulary : Vocabulary) (file : String)
    (front text : List Char) :
    (∃ above, check vocabulary file (front ++ ['\n'] ++ text) =
        above ++ (check vocabulary file text).map
          (·.movedDown (splitLines (front ++ ['\n'])).length) ∧
      ∀ d ∈ above, d.LiesBetween file 1 (splitLines (front ++ ['\n'])).length) ∧
    (check vocabulary file text).Pairwise (fun d e => d.lineNumber ≤ e.lineNumber) ∧
    ∀ d ∈ check vocabulary file text, d.LiesBetween file 1 (splitLines text).length := by
  refine ⟨?_, lineNumber_pairwise_checkLines _, liesBetween_of_mem_checkLines⟩
  rw [check, splitLines_append_newline_append, checkLines_append]
  exact ⟨_, rfl, liesBetween_of_mem_flatMap⟩

/-- A line that reads the clock in a way that is out of date. -/
def clockLine : List Char := "@Dependency(\\.date.now) var now".toList

/-- Such a line and a comment above another such line: what is said of the line by itself is said of
it two lines further down, behind what is said of the line above. -/
theorem check_append_newline_append_clockLine :
    let front := clockLine ++ "\n// Once more:".toList
    (check {} "App.swift" clockLine).map (·.lineNumber) = [1] ∧
    (check {} "App.swift" (front ++ ['\n'] ++ clockLine)).map (·.lineNumber) = [1, 3] ∧
    ∃ above, check {} "App.swift" (front ++ ['\n'] ++ clockLine) =
        above ++ (check {} "App.swift" clockLine).map (·.movedDown 2) ∧
      ∀ d ∈ above, d.LiesBetween "App.swift" 1 2 := by
  intro front
  have hlines : (splitLines (front ++ ['\n'])).length = 2 := by decide +kernel
  have hfindings := (check_append_newline_append {} "App.swift" front clockLine).1
  rw [hlines] at hfindings
  exact ⟨by decide +kernel, by decide +kernel, hfindings⟩

end Source

end PackageLint
