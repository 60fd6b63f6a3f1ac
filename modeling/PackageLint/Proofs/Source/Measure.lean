import Mathlib
import PackageLint.Proofs.Source.Verdict

/-!
# Verdicts and measures

A verdict on a body or a builder is all in the measure of its block. The larger the measure, the
more findings there are and the worse is the worst of them, since every limit is a lower bound and
the limits of the worse findings are the higher ones. A builder with as many components as are worth
a word has a score that is worth one as well, because a component counts twice.

## Main definitions

* `Measure.instLE`: a measure is at most another one in each of its numbers;
* `worstRank`: how bad the worst of some findings is;
* `IsMilder`: there are no more findings, and the worst of them is no worse;
* `Quotes`: a message tells a number.

## Main results

* `bodyFindings_isMilder`, `builderFindings_isMilder`: verdicts grow with the measure;
* `quotes_of_mem_bodyFindings`, `quotes_of_mem_builderFindings`: findings tell what was measured;
* `exists_score_of_builderFindings_ne_nil`: whatever is said of a builder comes with a word on its
  score;
* `verdicts_follow_measure`: all of this for blocks of lines.
-/

namespace PackageLint.Source

/-! ## Measures and findings in order -/

instance Measure.instLE : LE Measure where
  le m n := m.nesting ≤ n.nesting ∧ m.implicit ≤ n.implicit ∧ m.conditional ≤ n.conditional ∧
    m.components ≤ n.components

/-- The score adds up counts, so it grows with them. -/
theorem Measure.score_le_score {m n : Measure} (h : m ≤ n) : m.score ≤ n.score := by
  obtain ⟨-, -, hconditional, hcomponents⟩ := h
  rw [score, score]
  omega

/-- The rank of the worst of some findings, zero where there are none. -/
def worstRank (ds : List Diagnostic) : Nat := (ds.map (·.severity.rank)).foldr max 0

@[simp] theorem worstRank_nil : worstRank [] = 0 := rfl

@[simp] theorem worstRank_cons (d : Diagnostic) (ds : List Diagnostic) :
    worstRank (d :: ds) = max d.severity.rank (worstRank ds) := rfl

/-- The worst of two lots of findings is the worse one of the worst of each. -/
theorem worstRank_append (ds es : List Diagnostic) :
    worstRank (ds ++ es) = max (worstRank ds) (worstRank es) := by
  induction ds with
  | nil => simp
  | cons d ds ih => rw [List.cons_append, worstRank_cons, worstRank_cons, ih, max_assoc]

/-- There are no more findings than others, and the worst of them is no worse. -/
structure IsMilder (ds es : List Diagnostic) : Prop where
  /-- There are no more of them. -/
  length_le : ds.length ≤ es.length
  /-- The worst of them is no worse. -/
  worstRank_le : worstRank ds ≤ worstRank es

/-- Findings that are milder one by one are milder together. -/
theorem IsMilder.append {ds es ds' es' : List Diagnostic} (h : IsMilder ds es)
    (h' : IsMilder ds' es') : IsMilder (ds ++ ds') (es ++ es') where
  length_le := by
    rw [List.length_append, List.length_append]
    exact Nat.add_le_add h.length_le h'.length_le
  worstRank_le := by
    rw [worstRank_append, worstRank_append]
    exact max_le_max h.worstRank_le h'.worstRank_le

section Findings

variable {location location' : Location}

/-- There is one limit to the level, so a higher level is no less of an error. -/
theorem nestingFindings_isMilder {m n : Nat} (h : m ≤ n) :
    IsMilder (nestingFindings m location) (nestingFindings n location') := by
  unfold nestingFindings
  split_ifs <;> first | omega | exact ⟨by simp, by simp [finding]⟩

/-- The second limit to the implicit compositions is the higher one and makes an error of what was a
warning. -/
theorem implicitFindings_isMilder {m n : Nat} (h : m ≤ n) :
    IsMilder (implicitFindings m location) (implicitFindings n location') := by
  unfold implicitFindings
  split_ifs <;> first | omega | exact ⟨by simp, by simp [finding, Severity.rank]⟩

/-- The limits to the score are in the order of what they are worth. -/
theorem scoreFindings_isMilder {m n : Nat} (h : m ≤ n) :
    IsMilder (scoreFindings m location) (scoreFindings n location') := by
  unfold scoreFindings
  split_ifs <;> first | omega | exact ⟨by simp, by simp [finding, Severity.rank]⟩

/-- The limits to the components are in the order of what they are worth. -/
theorem componentFindings_isMilder {m n : Nat} (h : m ≤ n) :
    IsMilder (componentFindings m location) (componentFindings n location') := by
  unfold componentFindings
  split_ifs <;> first | omega | exact ⟨by simp, by simp [finding, Severity.rank]⟩

/-- The verdict on a body grows with its measure. -/
theorem bodyFindings_isMilder {m n : Measure} (h : m ≤ n) :
    IsMilder (bodyFindings m location) (bodyFindings n location') := by
  obtain ⟨hnesting, himplicit, -, -⟩ := h
  exact (nestingFindings_isMilder hnesting).append (implicitFindings_isMilder himplicit)

/-- The verdict on a builder grows with its measure. -/
theorem builderFindings_isMilder {m n : Measure} (h : m ≤ n) :
    IsMilder (builderFindings m location) (builderFindings n location') := by
  have hscore := Measure.score_le_score h
  obtain ⟨-, -, -, hcomponents⟩ := h
  exact (scoreFindings_isMilder hscore).append (componentFindings_isMilder hcomponents)

/-! ## What the findings say -/

/-- A finding without its place. -/
def unplaced (d : Diagnostic) : Diagnostic := { d with location := none }

/-- Where a body stands makes no difference to what is said of it. -/
theorem map_unplaced_bodyFindings (m : Measure) :
    (bodyFindings m location).map unplaced = (bodyFindings m location').map unplaced := by
  unfold bodyFindings nestingFindings implicitFindings
  split_ifs <;> rfl

/-- Where a builder stands makes no difference to what is said of it. -/
theorem map_unplaced_builderFindings (m : Measure) :
    (builderFindings m location).map unplaced = (builderFindings m location').map unplaced := by
  unfold builderFindings scoreFindings componentFindings
  split_ifs <;> rfl

/-- A message tells a number: some words stand in front of its numeral or behind it, and there are
no other digits. -/
def Quotes (words : String) (n : Nat) (message : String) : Prop :=
  ∃ before after : String, message = before ++ toString n ++ after ∧
    (before.toList ++ after.toList).any Char.isDigit = false ∧
    (words.toList <:+: before.toList ∨ words.toList <:+: after.toList)

/-- What is said of a level tells it. -/
theorem quotes_of_mem_nestingFindings {level : Nat} :
    ∀ d ∈ nestingFindings level location, Quotes "Nested CombineReducers" level d.message := by
  intro d hd
  unfold nestingFindings at hd
  split_ifs at hd
  · rw [List.mem_singleton.1 hd]
    exact ⟨"CRITICAL: Nested CombineReducers detected (level ",
      ")" ++ " - causes exponential type inference explosion", String.append_assoc,
      by decide +kernel, .inl (by decide +kernel)⟩
  · cases hd

/-- What is said of implicit compositions tells their number, in both of its wordings. -/
theorem quotes_of_mem_implicitFindings {count : Nat} :
    ∀ d ∈ implicitFindings count location, Quotes "implicit composition" count d.message := by
  intro d hd
  unfold implicitFindings at hd
  split_ifs at hd
  · rw [List.mem_singleton.1 hd]
    exact ⟨"Excessive implicit composition: ",
      " reducers in body - causes type inference explosion", rfl, by decide +kernel,
      .inl (by decide +kernel)⟩
  · rw [List.mem_singleton.1 hd]
    exact ⟨"Multiple implicit compositions: ", " reducers - risk of type inference issues", rfl,
      by decide +kernel, .inl (by decide +kernel)⟩
  · cases hd

/-- What is said of a score tells it, in all three wordings. -/
theorem quotes_of_mem_scoreFindings {score : Nat} :
    ∀ d ∈ scoreFindings score location, Quotes "complexity score" score d.message := by
  intro d hd
  unfold scoreFindings at hd
  split_ifs at hd
  · rw [List.mem_singleton.1 hd]
    exact ⟨"Extremely complex @ReducerBuilder with complexity score ",
      " - definite type inference explosion", rfl, by decide +kernel, .inl (by decide +kernel)⟩
  · rw [List.mem_singleton.1 hd]
    exact ⟨"Complex @ReducerBuilder with complexity score ",
      " - high risk of type inference issues", rfl, by decide +kernel, .inl (by decide +kernel)⟩
  · rw [List.mem_singleton.1 hd]
    exact ⟨"@ReducerBuilder complexity score ", " - may cause type inference slowdown", rfl,
      by decide +kernel, .inl (by decide +kernel)⟩
  · cases hd

/-- What is said of components tells their number, in both of its wordings. -/
theorem quotes_of_mem_componentFindings {count : Nat} :
    ∀ d ∈ componentFindings count location, Quotes "conditional reducers" count d.message := by
  intro d hd
  unfold componentFindings at hd
  split_ifs at hd
  · rw [List.mem_singleton.1 hd]
    exact ⟨"@ReducerBuilder with ", " conditional reducers - exponential type inference complexity",
      rfl, by decide +kernel, .inr (by decide +kernel)⟩
  · rw [List.mem_singleton.1 hd]
    exact ⟨"@ReducerBuilder with ", " conditional reducers - risk of type inference issues", rfl,
      by decide +kernel, .inr (by decide +kernel)⟩
  · cases hd

/-- The findings on a body tell its level and its implicit compositions. -/
theorem quotes_of_mem_bodyFindings {m : Measure} :
    ∀ d ∈ bodyFindings m location, Quotes "Nested CombineReducers" m.nesting d.message ∨
      Quotes "implicit composition" m.implicit d.message := by
  intro d hd
  rcases List.mem_append.1 hd with hd | hd
  · exact .inl (quotes_of_mem_nestingFindings d hd)
  · exact .inr (quotes_of_mem_implicitFindings d hd)

/-- The findings on a builder tell its score and its components. -/
theorem quotes_of_mem_builderFindings {m : Measure} :
    ∀ d ∈ builderFindings m location, Quotes "complexity score" m.score d.message ∨
      Quotes "conditional reducers" m.components d.message := by
  intro d hd
  rcases List.mem_append.1 hd with hd | hd
  · exact .inl (quotes_of_mem_scoreFindings d hd)
  · exact .inr (quotes_of_mem_componentFindings d hd)

/-- As many components as are worth a word make a score that is worth one. -/
theorem scoreFindings_ne_nil_of_componentFindings_ne_nil {m : Measure}
    (h : componentFindings m.components location ≠ []) :
    scoreFindings m.score location ≠ [] := by
  have hcomponents : 5 ≤ m.components := by
    by_contra hfew
    refine h ?_
    rw [componentFindings, if_neg (by omega), if_neg hfew]
  -- Five components count ten, and eight are enough for a word on the score.
  have hscore : 8 ≤ m.score := by
    rw [Measure.score]
    omega
  unfold scoreFindings
  split_ifs <;> exact List.cons_ne_nil _ _

/-- What is said of a builder begins with a word on its score. -/
theorem exists_score_of_builderFindings_ne_nil {m : Measure} (h : builderFindings m location ≠ []) :
    ∃ d ∈ builderFindings m location, Quotes "complexity score" m.score d.message := by
  have hscore : scoreFindings m.score location ≠ [] := by
    intro hnone
    rw [builderFindings, hnone, List.nil_append] at h
    exact scoreFindings_ne_nil_of_componentFindings_ne_nil h hnone
  obtain ⟨d, hd⟩ := List.exists_mem_of_ne_nil _ hscore
  exact ⟨d, List.mem_append_left _ hd, quotes_of_mem_scoreFindings d hd⟩

end Findings

/-- Verdicts follow the measure of the block. A measure that is at least another one in each of its
numbers gets at least as many findings, the worst of which is at least as bad; the same measure gets
the same findings, places aside. The messages tell the level and the implicit compositions of a
body, and the score and the components of a builder, where nothing is said of the components without
a word on the score. -/
theorem verdicts_follow_measure (vocabulary : Vocabulary) (lines lines' : List Line)
    (start start' : Int) (location location' : Location) :
    let m := measure vocabulary (blockAt lines start)
    let m' := measure vocabulary (blockAt lines' start')
    let body := checkBody vocabulary location (linesFrom start lines)
    let body' := checkBody vocabulary location' (linesFrom start' lines')
    let builder := checkBuilder vocabulary location (linesFrom start lines)
    let builder' := checkBuilder vocabulary location' (linesFrom start' lines')
    (m ≤ m' → IsMilder body body' ∧ IsMilder builder builder') ∧
    (m = m' → body.map unplaced = body'.map unplaced ∧
      builder.map unplaced = builder'.map unplaced) ∧
    (∀ d ∈ body, Quotes "Nested CombineReducers" m.nesting d.message ∨
      Quotes "implicit composition" m.implicit d.message) ∧
    (∀ d ∈ builder, Quotes "complexity score" (m.conditional + 2 * m.components) d.message ∨
      Quotes "conditional reducers" m.components d.message) ∧
    ((∃ d ∈ builder, Quotes "conditional reducers" m.components d.message) →
      ∃ d ∈ builder, Quotes "complexity score" m.score d.message) := by
  intro m m' body body' builder builder'
  have hbody : body = bodyFindings m location := checkBody_eq ..
  have hbody' : body' = bodyFindings m' location' := checkBody_eq ..
  have hbuilder : builder = builderFindings m location := checkBuilder_eq ..
  have hbuilder' : builder' = builderFindings m' location' := checkBuilder_eq ..
  rw [hbody, hbody', hbuilder, hbuilder']
  refine ⟨fun hle => ⟨bodyFindings_isMilder hle, builderFindings_isMilder hle⟩, fun heq => ?_,
    quotes_of_mem_bodyFindings, quotes_of_mem_builderFindings, ?_⟩
  · rw [heq]
    exact ⟨map_unplaced_bodyFindings m', map_unplaced_builderFindings m'⟩
  · rintro ⟨d, hd, -⟩
    exact exists_score_of_builderFindings_ne_nil (List.ne_nil_of_mem hd)

/-- A block with as many reducers as are asked for. -/
def reducerBlock (count : Nat) : List Line :=
  ["\x7b".toList] ++ List.replicate count "  Reduce(core)".toList ++ ["\x7d".toList]

/-- A builder of four reducers gets a warning for its score, and one of ten gets errors for its
score and for its reducers. -/
theorem verdicts_follow_measure_reducerBlock :
    let few := checkBuilder {} { file := "App.swift" } (linesFrom 0 (reducerBlock 4))
    let many := checkBuilder {} { file := "App.swift" } (linesFrom 0 (reducerBlock 10))
    few.map (·.severity) = [.warning] ∧ many.map (·.severity) = [.error, .error] ∧
    IsMilder few many ∧
    ∀ d ∈ few, Quotes "complexity score" 8 d.message ∨
      Quotes "conditional reducers" 4 d.message := by
  intro few many
  have hfew : measure {} (blockAt (reducerBlock 4) 0) = { implicit := 4, components := 4 } := by
    decide +kernel
  have hmany : measure {} (blockAt (reducerBlock 10) 0) = { implicit := 10, components := 10 } := by
    decide +kernel
  obtain ⟨hmilder, -, -, hquotes, -⟩ := verdicts_follow_measure {} (reducerBlock 4)
    (reducerBlock 10) 0 0 { file := "App.swift" } { file := "App.swift" }
  have hfewFindings : few = builderFindings (measure {} (blockAt (reducerBlock 4) 0)) _ :=
    checkBuilder_eq ..
  have hmanyFindings : many = builderFindings (measure {} (blockAt (reducerBlock 10) 0)) _ :=
    checkBuilder_eq ..
  rw [hfew] at hmilder hquotes hfewFindings
  rw [hmany] at hmilder hmanyFindings
  refine ⟨?_, ?_, (hmilder ⟨le_rfl, by decide, le_rfl, by decide⟩).2, hquotes⟩
  · rw [hfewFindings]
    rfl
  · rw [hmanyFindings]
    rfl

end PackageLint.Source
