import Mathlib
import PackageLint.Source.Check

/-!
# Verdicts on lines, bodies and builders

The findings on a source are those on its lines, one line after the other, and those on a line
are a verdict on the body that it opens, one on the builder that it opens, and one on the
dependency that it declares. The first two are known once the block behind the line is measured,
and the findings tell what was measured where it is large enough to be worth a word.

## Main definitions

* `bodyVerdictAt`, `builderVerdictAt`, `dependencyVerdictAt`: the findings on a line by what they
  are about;
* `Measure.AlikeAsBody`, `Measure.AlikeAsBuilder`: blocks between which a verdict sees no
  difference;
* `OpensAlike`: what a line opens is so in two sources.

## Main results

* `checkLines_eq_flatMap`: the findings on a source in terms of these verdicts;
* `checkLines_eq_iff`: when the findings on two sources are the same;
* `bodyFindings_eq_iff`, `builderFindings_eq_iff`: when two blocks get the same verdict.
-/

namespace PackageLint.Source

open Text

/-- The code of a line opens a reducer body. -/
def opensBody (vocabulary : Vocabulary) (line : Line) : Bool :=
  occursIn vocabulary.bodyTrigger.toList (withoutComment line)

/-- The code of a line opens a builder. -/
def opensBuilder (vocabulary : Vocabulary) (line : Line) : Bool :=
  occursIn vocabulary.builderTrigger.toList (withoutComment line)

/-- The place of the line at an index. -/
def placeAt (file : String) (index : Nat) : Location := { file, line := some (index + 1 : Nat) }

/-- The measure of the block behind the line at an index. -/
def measureBehind (vocabulary : Vocabulary) (lines : List Line) (index : Nat) : Measure :=
  measure vocabulary (block (lines.drop (index + 1)))

/-- What is said of the body that the line at an index opens. -/
def bodyVerdictAt (vocabulary : Vocabulary) (file : String) (lines : List Line) (index : Nat) :
    List Diagnostic :=
  if opensBody vocabulary (lines.getD index []) then
    checkBody vocabulary (placeAt file index) (lines.drop (index + 1))
  else []

/-- What is said of the builder that the line at an index opens. -/
def builderVerdictAt (vocabulary : Vocabulary) (file : String) (lines : List Line) (index : Nat) :
    List Diagnostic :=
  if opensBuilder vocabulary (lines.getD index []) then
    checkBuilder vocabulary (placeAt file index) (lines.drop (index + 1))
  else []

/-- What is said of the dependency that the line at an index declares. -/
def dependencyVerdictAt (file : String) (lines : List Line) (index : Nat) : List Diagnostic :=
  dependencyFindings (placeAt file index) (withoutComment (lines.getD index []))

/-- What is said of the line at an index. -/
def verdictAt (vocabulary : Vocabulary) (file : String) (lines : List Line) (index : Nat) :
    List Diagnostic :=
  bodyVerdictAt vocabulary file lines index ++ builderVerdictAt vocabulary file lines index ++
    dependencyVerdictAt file lines index

namespace Measure

/-- Two blocks are alike as bodies: levels up to one and counts up to two make no difference. -/
def AlikeAsBody (m n : Measure) : Prop :=
  max 1 m.nesting = max 1 n.nesting ∧ max 2 m.implicit = max 2 n.implicit

/-- Two blocks are alike as builders: scores up to seven and counts up to four make no
difference. -/
def AlikeAsBuilder (m n : Measure) : Prop :=
  max 7 m.score = max 7 n.score ∧ max 4 m.components = max 4 n.components

end Measure

/-- Where the line at an index opens a body or a builder, the blocks behind it in two sources are
alike. -/
structure OpensAlike (vocabulary : Vocabulary) (xs ys : List Line) (index : Nat) : Prop where
  body : opensBody vocabulary (xs.getD index []) = true →
    (measureBehind vocabulary xs index).AlikeAsBody (measureBehind vocabulary ys index)
  builder : opensBuilder vocabulary (xs.getD index []) = true →
    (measureBehind vocabulary xs index).AlikeAsBuilder (measureBehind vocabulary ys index)

/-! ## Findings tell what was measured -/

variable {location : Location}

/-- Lists made of two parts each are the same only if the parts are, where nothing in the first part
of one stands in the second part of the other. -/
theorem append_inj_of_disjoint {α : Type} {a b c d : List α} (had : ∀ x ∈ a, x ∉ d)
    (hcb : ∀ x ∈ c, x ∉ b) : a ++ b = c ++ d ↔ a = c ∧ b = d := by
  refine ⟨fun h => ?_, fun ⟨hac, hbd⟩ => by rw [hac, hbd]⟩
  rcases List.append_eq_append_iff.1 h with ⟨e, rfl, rfl⟩ | ⟨e, rfl, rfl⟩
  · obtain rfl : e = [] := List.eq_nil_iff_forall_not_mem.2 fun x hx =>
      hcb x (List.mem_append_right _ hx) (List.mem_append_left _ hx)
    simp
  · obtain rfl : e = [] := List.eq_nil_iff_forall_not_mem.2 fun x hx =>
      had x (List.mem_append_right _ hx) (List.mem_append_left _ hx)
    simp

/-- A level is told from the next one as soon as it is an error. -/
theorem nestingFindings_eq_iff {m n : Nat} :
    nestingFindings m location = nestingFindings n location ↔ max 1 m = max 1 n := by
  unfold nestingFindings
  split_ifs <;> simp [finding] <;> omega

/-- A number of implicit compositions is told from the next one as soon as it is worth a word. -/
theorem implicitFindings_eq_iff {m n : Nat} :
    implicitFindings m location = implicitFindings n location ↔ max 2 m = max 2 n := by
  unfold implicitFindings
  split_ifs <;> simp [finding] <;> omega

/-- A score is told from the next one as soon as it is worth a word. -/
theorem scoreFindings_eq_iff {m n : Nat} :
    scoreFindings m location = scoreFindings n location ↔ max 7 m = max 7 n := by
  unfold scoreFindings
  split_ifs <;> simp [finding] <;> omega

/-- A number of components is told from the next one as soon as it is worth a word. -/
theorem componentFindings_eq_iff {m n : Nat} :
    componentFindings m location = componentFindings n location ↔ max 4 m = max 4 n := by
  unfold componentFindings
  split_ifs <;> simp [finding] <;> omega

/-- No finding on nested groupings is one on implicit compositions. -/
theorem not_mem_implicitFindings_of_mem_nestingFindings {m n : Nat} :
    ∀ d ∈ nestingFindings m location, d ∉ implicitFindings n location := by
  unfold nestingFindings implicitFindings
  split_ifs <;> simp [finding]

/-- No finding on a score is one on a number of components. -/
theorem not_mem_componentFindings_of_mem_scoreFindings {m n : Nat} :
    ∀ d ∈ scoreFindings m location, d ∉ componentFindings n location := by
  unfold scoreFindings componentFindings
  split_ifs <;> simp [finding]

/-- Bodies get the same verdict exactly if they are alike. -/
theorem bodyFindings_eq_iff {m n : Measure} :
    bodyFindings m location = bodyFindings n location ↔ m.AlikeAsBody n := by
  rw [bodyFindings, bodyFindings, append_inj_of_disjoint
    not_mem_implicitFindings_of_mem_nestingFindings not_mem_implicitFindings_of_mem_nestingFindings,
    nestingFindings_eq_iff, implicitFindings_eq_iff, Measure.AlikeAsBody]

/-- Builders get the same verdict exactly if they are alike. -/
theorem builderFindings_eq_iff {m n : Measure} :
    builderFindings m location = builderFindings n location ↔ m.AlikeAsBuilder n := by
  rw [builderFindings, builderFindings, append_inj_of_disjoint
    not_mem_componentFindings_of_mem_scoreFindings not_mem_componentFindings_of_mem_scoreFindings,
    scoreFindings_eq_iff, componentFindings_eq_iff, Measure.AlikeAsBuilder]

/-- No finding on a body is one on a builder. -/
theorem not_mem_builderFindings_of_mem_bodyFindings {m n : Measure} :
    ∀ d ∈ bodyFindings m location, d ∉ builderFindings n location := by
  unfold bodyFindings builderFindings nestingFindings implicitFindings scoreFindings
    componentFindings
  split_ifs <;> simp [finding]

/-! ## Findings on a source, line by line -/

section Lines

variable {vocabulary : Vocabulary} {file : String} {lines : List Line} {index : Nat}

/-- The lines behind the first one keep what is said of them, at places further down. -/
theorem checkLinesFrom_eq_flatMap (number : Nat) :
    checkLinesFrom vocabulary file number lines =
      (List.range lines.length).flatMap fun index =>
        checkLine vocabulary { file, line := some ((number + index : Nat) : Int) }
          (lines.getD index []) (lines.drop (index + 1)) := by
  induction lines generalizing number with
  | nil => rfl
  | cons line rest ih =>
    rw [checkLinesFrom_cons, ih, List.length_cons, List.range_succ_eq_map, List.flatMap_cons,
      List.flatMap_map]
    simp [Nat.add_assoc, Nat.add_comm 1]

/-- The findings on a source are the verdicts on its lines, one line after the other. -/
theorem checkLines_eq_flatMap :
    checkLines vocabulary file lines =
      (List.range lines.length).flatMap (verdictAt vocabulary file lines) := by
  rw [checkLines, checkLinesFrom_eq_flatMap]
  refine List.flatMap_congr fun index _ => ?_
  rw [Nat.add_comm]
  rfl

/-- What is said of a body stands at the body. -/
theorem location_of_mem_bodyFindings {m : Measure} :
    ∀ d ∈ bodyFindings m location, d.location = some location := by
  unfold bodyFindings nestingFindings implicitFindings
  split_ifs <;> simp [finding]

/-- What is said of a builder stands at the builder. -/
theorem location_of_mem_builderFindings {m : Measure} :
    ∀ d ∈ builderFindings m location, d.location = some location := by
  unfold builderFindings scoreFindings componentFindings
  split_ifs <;> simp [finding]

/-- What is said of a dependency stands at its line. -/
theorem location_of_mem_dependencyFindings {code : Line} :
    ∀ d ∈ dependencyFindings location code, d.location = some location := by
  -- The type of a declaration may add a finding of its own, at the same place.
  have hnonSendable : ∀ declaration d,
      nonSendableFinding location declaration = some d → d.location = some location := by
    intro declaration d h
    obtain ⟨offending, -, rfl⟩ := Option.map_eq_some_iff.1 h
    rfl
  intro d hd
  rw [dependencyFindings] at hd
  split_ifs at hd <;>
    simp only [List.mem_append, List.mem_singleton, Option.mem_toList, Option.bind_eq_some_iff,
      List.not_mem_nil, or_false, false_or] at hd
  · rcases hd with rfl | ⟨declaration, -, hd⟩
    · rfl
    · exact hnonSendable declaration d hd
  · rw [hd]
    rfl
  · obtain ⟨declaration, -, hd⟩ := hd
    exact hnonSendable declaration d hd

/-- What is said of the line at an index is said of its place. -/
theorem location_of_mem_verdictAt :
    ∀ d ∈ verdictAt vocabulary file lines index, d.location = some (placeAt file index) := by
  intro d hd
  simp only [verdictAt, List.mem_append, or_assoc] at hd
  rcases hd with hd | hd | hd
  · rw [bodyVerdictAt, checkBody_eq] at hd
    split_ifs at hd
    · exact location_of_mem_bodyFindings d hd
    · cases hd
  · rw [builderVerdictAt, checkBuilder_eq] at hd
    split_ifs at hd
    · exact location_of_mem_builderFindings d hd
    · cases hd
  · exact location_of_mem_dependencyFindings d hd

/-- Nothing is said behind the last line. -/
theorem verdictAt_eq_nil (h : lines.length ≤ index) :
    verdictAt vocabulary file lines index = [] := by
  have hline : lines.getD index [] = [] := List.getD_eq_default _ _ h
  have hrest : lines.drop (index + 1) = [] := List.drop_eq_nil_of_le (by omega)
  rw [verdictAt, bodyVerdictAt, builderVerdictAt, dependencyVerdictAt, hline, hrest]
  simp [checkBody_eq, checkBuilder_eq, bodyFindings, builderFindings, nestingFindings,
    implicitFindings, scoreFindings, componentFindings, Measure.score, dependencyFindings, occursIn]

/-- Findings that tell their place are the same over all places if they are at each of them. -/
theorem flatMap_range_eq_iff {f g : Nat → List Diagnostic}
    (hf : ∀ index, ∀ d ∈ f index, d.location = some (placeAt file index))
    (hg : ∀ index, ∀ d ∈ g index, d.location = some (placeAt file index)) (n : Nat) :
    (List.range n).flatMap f = (List.range n).flatMap g ↔ ∀ index < n, f index = g index := by
  have hdisjoint : ∀ {f g : Nat → List Diagnostic} {n : Nat},
      (∀ index, ∀ d ∈ f index, d.location = some (placeAt file index)) →
      (∀ index, ∀ d ∈ g index, d.location = some (placeAt file index)) →
      ∀ d ∈ (List.range n).flatMap f, d ∉ g n := by
    intro f g n hf hg d hd hdn
    obtain ⟨index, hindex, hd⟩ := List.mem_flatMap.1 hd
    have hplace : placeAt file index = placeAt file n :=
      Option.some.inj ((hf index d hd).symm.trans (hg n d hdn))
    have hsame : index = n := by simpa [placeAt] using hplace
    exact absurd (List.mem_range.1 hindex) (by omega)
  -- What is said of the last place is said of no other one, so it can be cut off on both sides.
  induction n with
  | zero => simp
  | succ n ih =>
    rw [List.range_succ, List.flatMap_append, List.flatMap_append, List.flatMap_singleton,
      List.flatMap_singleton, append_inj_of_disjoint (hdisjoint hf hg) (hdisjoint hg hf)]
    refine (and_congr_left' ih).trans ?_
    simp only [Nat.lt_succ_iff_lt_or_eq, or_imp, forall_and, forall_eq]

/-- The findings on a source are also the verdicts on more places than it has lines. -/
theorem checkLines_eq_flatMap_of_le {n : Nat} (h : lines.length ≤ n) :
    checkLines vocabulary file lines = (List.range n).flatMap (verdictAt vocabulary file lines) := by
  obtain ⟨more, rfl⟩ := Nat.exists_eq_add_of_le h
  rw [checkLines_eq_flatMap, List.range_add, List.flatMap_append, List.self_eq_append_right,
    List.flatMap_eq_nil_iff]
  intro index hindex
  obtain ⟨k, -, rfl⟩ := List.mem_map.1 hindex
  exact verdictAt_eq_nil (Nat.le_add_right _ _)

end Lines

/-! ## Sources with the same code on every line -/

section Alike

variable {vocabulary : Vocabulary} {file : String} {xs ys : List Line} {index : Nat}

/-- Lines with the same code get the same verdict exactly if what they open is alike. -/
theorem verdictAt_eq_iff
    (hcode : withoutComment (xs.getD index []) = withoutComment (ys.getD index [])) :
    verdictAt vocabulary file xs index = verdictAt vocabulary file ys index ↔
      OpensAlike vocabulary xs ys index := by
  have hbody : opensBody vocabulary (ys.getD index []) = opensBody vocabulary (xs.getD index []) := by
    rw [opensBody, opensBody, hcode]
  have hbuilder :
      opensBuilder vocabulary (ys.getD index []) = opensBuilder vocabulary (xs.getD index []) := by
    rw [opensBuilder, opensBuilder, hcode]
  -- No finding on a body is one on a builder, so the two parts of a verdict can be told apart.
  have hdisjoint : ∀ {xs ys : List Line}, ∀ d ∈ bodyVerdictAt vocabulary file xs index,
      d ∉ builderVerdictAt vocabulary file ys index := by
    intro xs ys d hd
    rw [bodyVerdictAt, checkBody_eq] at hd
    rw [builderVerdictAt, checkBuilder_eq]
    split_ifs at hd ⊢ <;>
      first
      | exact not_mem_builderFindings_of_mem_bodyFindings d hd
      | exact List.not_mem_nil
      | cases hd
  rw [verdictAt, verdictAt, dependencyVerdictAt, dependencyVerdictAt, hcode, List.append_left_inj,
    append_inj_of_disjoint hdisjoint hdisjoint, bodyVerdictAt, bodyVerdictAt, builderVerdictAt,
    builderVerdictAt, hbody, hbuilder]
  refine (and_congr ?_ ?_).trans ⟨fun h => ⟨h.1, h.2⟩, fun h => ⟨h.body, h.builder⟩⟩
  -- Where a line opens nothing there is nothing to compare.
  · split_ifs with hopens
    · rw [checkBody_eq, checkBody_eq, bodyFindings_eq_iff, imp_iff_right hopens]
      rfl
    · exact iff_of_true rfl fun h => absurd h hopens
  · split_ifs with hopens
    · rw [checkBuilder_eq, checkBuilder_eq, builderFindings_eq_iff, imp_iff_right hopens]
      rfl
    · exact iff_of_true rfl fun h => absurd h hopens

/-- Sources whose lines have the same code get the same findings exactly if the bodies and the
builders that they open are alike. -/
theorem checkLines_eq_iff
    (hcode : ∀ index, withoutComment (xs.getD index []) = withoutComment (ys.getD index [])) :
    checkLines vocabulary file xs = checkLines vocabulary file ys ↔
      ∀ index, OpensAlike vocabulary xs ys index := by
  -- Behind the longer one of the two nothing is said of either.
  have hall : (∀ index < max xs.length ys.length,
      verdictAt vocabulary file xs index = verdictAt vocabulary file ys index) ↔
      ∀ index, verdictAt vocabulary file xs index = verdictAt vocabulary file ys index := by
    refine ⟨fun h index => ?_, fun h index _ => h index⟩
    by_cases hindex : index < max xs.length ys.length
    · exact h index hindex
    · rw [verdictAt_eq_nil (by omega), verdictAt_eq_nil (by omega)]
  rw [checkLines_eq_flatMap_of_le (Nat.le_max_left xs.length ys.length),
    checkLines_eq_flatMap_of_le (Nat.le_max_right xs.length ys.length),
    flatMap_range_eq_iff (fun _ => location_of_mem_verdictAt) (fun _ => location_of_mem_verdictAt),
    hall]
  exact forall_congr' fun index => verdictAt_eq_iff (hcode index)

end Alike

end PackageLint.Source
