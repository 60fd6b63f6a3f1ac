import Mathlib
import PackageLint.Proofs.Text.CarriageReturn
import PackageLint.Routing.Category

/-!
# Which category a task belongs to

A task belongs to the first of the categories in which it scores highest, and to none if it scores
nowhere. Scores count words and not keywords: a keyword that is repeated, stands in another place or
is written in another case is the same word. Two parts of a table can be searched one by one, since
the category of the second part is taken only if the task scores higher there; so a further category
is taken exactly if its score is higher than that of all others, or the same and none in front of it
has it.

## Main definitions

* `TaskCategory.words`: the words of a category;
* `TaskCategory.SaysSame`: two categories with the same words that differ in their keywords at most;
* `TaskCategory.IsRewriting`: keywords in another order, repeated or in another case;
* `ReadingRoute.later`: what was chosen before, or a later choice with a higher score.

## Main results

* `TaskCategory.score_eq_card`: the score counts words;
* `TaskCategory.saysSame_of_isRewriting`: a category says the same with keywords that are rewritten;
* `ReadingRoute.classify_append`: the parts of a table can be searched one by one;
* `ReadingRoute.classify_eq_some_iff`: which category is chosen;
* `ReadingRoute.classify_insert`: what a further category changes;
* `ReadingRoute.classify_first_greatest`: all of this for a task and a table.
-/

namespace PackageLint

/-! ## Letters in either case -/

namespace Text

/-- A letter of ASCII counts for the letters around it as its lower-case form does, and has the same
lower-case form. -/
theorem alike_toLower (c : Char) :
    isCased c.toLower = isCased c ∧ isCaseIgnorable c.toLower = isCaseIgnorable c ∧
      lowerChar c.toLower = lowerChar c ∧ (c.toLower = 'Σ' ↔ c = 'Σ') ∧
      (c.toLower = 'İ' ↔ c = 'İ') := by
  by_cases hascii : c.toNat < 128
  · have hall : ∀ n < 128, let c := Char.ofNat n
        isCased c.toLower = isCased c ∧ isCaseIgnorable c.toLower = isCaseIgnorable c ∧
          lowerChar c.toLower = lowerChar c ∧ (c.toLower = 'Σ' ↔ c = 'Σ') ∧
          (c.toLower = 'İ' ↔ c = 'İ') := by decide +kernel
    have hc := hall c.toNat hascii
    rwa [Char.ofNat_toNat] at hc
  -- Beyond ASCII nothing is changed.
  · have hsame : c.toLower = c := by
      rw [Char.toLower, dif_neg]
      rintro ⟨-, hle⟩
      exact hascii (lt_of_le_of_lt hle (by decide))
    simp [hsame]

/-- Whether the next letter has a case can be told from its small form as well. -/
theorem nextIsCased_map_toLower (cs : List Char) :
    nextIsCased (cs.map Char.toLower) = nextIsCased cs := by
  induction cs with
  | nil => rfl
  | cons c cs ih =>
    obtain ⟨hcased, hignorable, -⟩ := alike_toLower c
    rw [List.map_cons, nextIsCased_cons, nextIsCased_cons, ih, hcased, hignorable]

/-- Making ASCII letters small beforehand makes no difference to the small letters of a text. -/
theorem lowerAfter_map_toLower (before cs : List Char) :
    lowerAfter before (cs.map Char.toLower) = lowerAfter before cs := by
  induction cs generalizing before with
  | nil => rfl
  | cons c cs ih =>
    obtain ⟨hcased, hignorable, hlower, hsigma, hdotted⟩ := alike_toLower c
    have hhere : lowerBetween before c.toLower (cs.map Char.toLower) = lowerBetween before c cs := by
      rw [lowerBetween, lowerBetween, nextIsCased_map_toLower, hlower]
      simp only [hsigma, hdotted]
    have hbefore : nextIsCased (c.toLower :: before) = nextIsCased (c :: before) := by
      rw [nextIsCased_cons, nextIsCased_cons, hcased, hignorable]
    rw [List.map_cons, lowerAfter_cons, lowerAfter_cons, hhere, lowerAfter_congr hbefore, ih]

/-- The case in which the letters of ASCII are written makes no difference to the lower-case
form. -/
theorem lower_map_toLower (cs : List Char) : lower (cs.map Char.toLower) = lower cs :=
  lowerAfter_map_toLower [] cs

end Text

/-! ## Words -/

namespace TaskCategory

/-- The words of a category: its keywords in lower case. -/
def words (category : TaskCategory) : Finset String :=
  (category.keywords.map Text.lowered).toFinset

/-- Two categories have the same words, and differ in their keywords at most. -/
structure SaysSame (category other : TaskCategory) : Prop where
  words_eq : other.words = category.words
  fields_eq : { other with keywords := [] } = { category with keywords := [] }

/-- Keywords that come of others by reordering, repeating and writing them in another case. -/
inductive IsRewriting : List String → List String → Prop
  /-- The same keywords in another order. -/
  | reordered {keywords others : List String} (h : others.Perm keywords) :
      IsRewriting keywords others
  /-- One of the keywords once more. -/
  | repeated {keywords : List String} {keyword : String} (h : keyword ∈ keywords) :
      IsRewriting keywords (keyword :: keywords)
  /-- Letters in another case. -/
  | recased {keywords others : List String}
      (h : others.map (·.toList.map Char.toLower) = keywords.map (·.toList.map Char.toLower)) :
      IsRewriting keywords others
  /-- One change after the other. -/
  | trans {keywords others more : List String} (first : IsRewriting keywords others)
      (second : IsRewriting others more) : IsRewriting keywords more

/-- The score of a task is the number of words that its text in lower case mentions. -/
theorem score_eq_card (category : TaskCategory) (task : String) :
    category.score task =
      (category.words.filter fun word => word.toList <:+: Text.lower task.toList).card := by
  have hwords : category.words = category.terms.toFinset := by
    ext word
    simp [words, terms]
  -- The terms have no repetitions, so counting them is counting words.
  have hcount : category.score task =
      (category.terms.filter fun word => word.toList <:+: Text.lower task.toList).length := by
    rw [score, scoreIn, List.countP_eq_length_filter]
    congr 2
    funext word
    rw [← Bool.decide_coe (Text.occursIn _ _)]
    simp only [Text.occursIn_iff_isInfix]
  have hnodup := category.nodup_terms.filter fun word => word.toList <:+: Text.lower task.toList
  rw [hcount, hwords, ← List.toFinset_card_of_nodup hnodup, List.toFinset_filter]
  simp

/-- A category says the same as itself. -/
theorem SaysSame.refl (category : TaskCategory) : SaysSame category category := ⟨rfl, rfl⟩

/-- What says the same as one that says the same does so too. -/
theorem SaysSame.trans {a b c : TaskCategory} (hab : SaysSame a b) (hbc : SaysSame b c) :
    SaysSame a c :=
  ⟨hbc.words_eq.trans hab.words_eq, hbc.fields_eq.trans hab.fields_eq⟩

/-- Only words are counted. -/
theorem SaysSame.score_eq {category other : TaskCategory} (h : SaysSame category other)
    (task : String) : other.score task = category.score task := by
  rw [score_eq_card, score_eq_card, h.words_eq]

section Keywords

variable (category : TaskCategory) {keywords : List String}

/-- The order of keywords does not matter. -/
theorem saysSame_of_perm (h : keywords.Perm category.keywords) :
    SaysSame category { category with keywords } :=
  ⟨List.toFinset_eq_of_perm _ _ (h.map _), rfl⟩

/-- A keyword counts once. -/
theorem saysSame_of_repeated {keyword : String} (h : keyword ∈ category.keywords) :
    SaysSame category { category with keywords := keyword :: category.keywords } := by
  refine ⟨?_, rfl⟩
  rw [words, List.map_cons, List.toFinset_cons]
  exact Finset.insert_eq_of_mem (List.mem_toFinset.2 (List.mem_map_of_mem h))

/-- Keywords are compared in lower case. -/
theorem saysSame_of_recased
    (h : keywords.map (·.toList.map Char.toLower) =
      category.keywords.map (·.toList.map Char.toLower)) :
    SaysSame category { category with keywords } := by
  -- The lower-case form depends on what is left of a keyword without the case of its letters.
  have hlowered : ∀ keyword : String, Text.lowered keyword =
      .ofList (Text.lower (keyword.toList.map Char.toLower)) := by
    intro keyword
    rw [Text.lower_map_toLower, Text.lowered]
  have hmap : ∀ list : List String, list.map Text.lowered =
      (list.map (·.toList.map Char.toLower)).map fun cs => .ofList (Text.lower cs) := by
    intro list
    rw [List.map_map]
    exact List.map_congr_left fun keyword _ => hlowered keyword
  refine ⟨?_, rfl⟩
  rw [words, words, hmap, h, ← hmap]

/-- Rewriting its keywords leaves a category its words. -/
theorem saysSame_of_isRewriting {others : List String} (h : IsRewriting keywords others) :
    SaysSame { category with keywords } { category with keywords := others } := by
  induction h with
  | reordered h => exact saysSame_of_perm { category with keywords := _ } h
  | repeated h => exact saysSame_of_repeated { category with keywords := _ } h
  | recased h => exact saysSame_of_recased { category with keywords := _ } h
  | trans _ _ first second => exact first.trans second

end Keywords

end TaskCategory

namespace ReadingRoute

/-- The score of what was chosen, zero if nothing was. -/
def topScore (best : Option ReadingRoute) : Nat := best.elim 0 (·.score)

/-- What was chosen before, or a later choice if it has a higher score. -/
def later (best other : Option ReadingRoute) : Option ReadingRoute :=
  if topScore best < topScore other then other else best

/-- The route without the keywords that led to it. -/
def withoutKeywords (route : ReadingRoute) : ReadingRoute :=
  { route with category := { route.category with keywords := [] } }

@[simp] theorem topScore_none : topScore none = 0 := rfl

@[simp] theorem topScore_some (route : ReadingRoute) : topScore (some route) = route.score := rfl

/-- A later choice with a higher score takes the place of the one before. -/
theorem later_of_lt {best other : Option ReadingRoute} (h : topScore best < topScore other) :
    later best other = other := if_pos h

/-- A later choice with an equal score does not. -/
theorem later_of_le {best other : Option ReadingRoute} (h : topScore other ≤ topScore best) :
    later best other = best := if_neg (Nat.not_lt_of_le h)

/-- Of two choices the one with the higher score is left. -/
theorem topScore_later (best other : Option ReadingRoute) :
    topScore (later best other) = max (topScore best) (topScore other) := by
  rw [later]
  split_ifs <;> omega

/-- It makes no difference which of three choices in a row are compared first, so that a table can
be cut anywhere. -/
theorem later_assoc (a b c : Option ReadingRoute) :
    later (later a b) c = later a (later b c) := by
  simp only [later]
  split_ifs <;> first | rfl | omega

section Task

variable (task : String)

/-- A single category is chosen if it has any score. -/
theorem classify_singleton (category : TaskCategory) :
    classify [category] task =
      if 0 < category.score task then some { category, score := category.score task } else none :=
  rfl

/-- The choice from a single category has its score. -/
theorem topScore_classify_singleton (category : TaskCategory) :
    topScore (classify [category] task) = category.score task := by
  rw [classify_singleton]
  split_ifs with h
  · rfl
  · exact (Nat.eq_zero_of_not_pos h).symm

/-- One more category is a later choice. -/
theorem better_eq_later (best : Option ReadingRoute) (category : TaskCategory) :
    better task best category = later best (classify [category] task) := by
  rw [later, topScore_classify_singleton, classify_singleton]
  show (if topScore best < category.score task then some _ else best) = _
  split_ifs with hbetter hpositive
  · rfl
  -- A score that is higher than another one is not zero.
  · exact absurd (Nat.zero_lt_of_lt hbetter) hpositive
  · rfl

/-- The choice from a table is the one from its first part, or a later one from the second. -/
theorem classify_append (before after : List TaskCategory) :
    classify (before ++ after) task = later (classify before task) (classify after task) := by
  induction after using List.reverseRecOn with
  | nil => simp [later]
  | append_singleton after category ih =>
    rw [← List.append_assoc, classify_append_singleton, classify_append_singleton, ih,
      better_eq_later, better_eq_later, later_assoc]

variable {task}

/-- A bound on the score of the choice is one on all scores of the table. -/
theorem topScore_classify_le_iff {table : List TaskCategory} {n : Nat} :
    topScore (classify table task) ≤ n ↔ ∀ category ∈ table, category.score task ≤ n := by
  induction table with
  | nil => simp
  | cons category table ih =>
    rw [← List.singleton_append, classify_append, topScore_later, topScore_classify_singleton,
      max_le_iff, ih]
    simp

/-- The category that is chosen is the first one with the highest score. -/
theorem classify_eq_some_iff {table : List TaskCategory} {route : ReadingRoute} :
    classify table task = some route ↔
      0 < route.score ∧ ∃ before after, table = before ++ route.category :: after ∧
        route.category.score task = route.score ∧
        (∀ category ∈ before, category.score task < route.score) ∧
        ∀ category ∈ after, category.score task ≤ route.score := by
  constructor
  · intro h
    induction table using List.reverseRecOn with
    | nil => cases h
    | append_singleton table category ih =>
      rw [classify_append_singleton, better] at h
      split_ifs at h with hbetter
      -- The last category scores higher than all others.
      · cases h
        refine ⟨Nat.zero_lt_of_lt hbetter, table, [], rfl, rfl, fun other hother => ?_, by simp⟩
        exact lt_of_le_of_lt (topScore_classify_le_iff.1 le_rfl other hother) hbetter
      · obtain ⟨hpositive, before, after, rfl, hscore, hbefore, hafter⟩ := ih h
        refine ⟨hpositive, before, after ++ [category], by simp, hscore, hbefore, ?_⟩
        intro other hother
        rcases List.mem_append.1 hother with hother | hother
        · exact hafter other hother
        · obtain rfl := List.mem_singleton.1 hother
          rw [h] at hbetter
          exact Nat.le_of_not_lt hbetter
  · rintro ⟨hpositive, before, after, rfl, hscore, hbefore, hafter⟩
    have hchosen : classify [route.category] task = some route := by
      rw [classify_singleton, hscore, if_pos hpositive]
    have hbefore' : topScore (classify before task) ≤ route.score - 1 :=
      topScore_classify_le_iff.2 fun category hcategory => Nat.le_pred_of_lt (hbefore _ hcategory)
    have hafter' : topScore (classify after task) ≤ route.score := topScore_classify_le_iff.2 hafter
    -- The category keeps its place against those behind it, and takes the place of those in front.
    rw [← List.singleton_append, classify_append, classify_append, hchosen]
    have hrest : later (some route) (classify after task) = some route :=
      if_neg (Nat.not_lt_of_le hafter')
    rw [hrest]
    refine if_pos ?_
    rw [topScore_some]
    omega

/-- Nothing is chosen exactly if the task scores nowhere. -/
theorem classify_eq_none_iff {table : List TaskCategory} :
    classify table task = none ↔ ∀ category ∈ table, category.score task = 0 := by
  constructor
  · intro h category hcategory
    have hle : topScore (classify table task) ≤ 0 := by rw [h, topScore_none]
    exact Nat.eq_zero_of_le_zero (topScore_classify_le_iff.1 hle category hcategory)
  · intro h
    rw [Option.eq_none_iff_forall_ne_some]
    intro route hroute
    obtain ⟨hpositive, before, after, rfl, hscore, -⟩ := classify_eq_some_iff.1 hroute
    rw [← hscore, h route.category (by simp)] at hpositive
    exact absurd hpositive (lt_irrefl 0)

/-- Being the first one with the highest score can be told from the categories in front and
behind. -/
theorem first_greatest_iff {table : List TaskCategory} {category : TaskCategory} {n : Nat} :
    (∀ other ∈ table, other.score task ≤ n) ∧ table.find? (·.score task = n) = some category ↔
      ∃ before after, table = before ++ category :: after ∧ category.score task = n ∧
        (∀ other ∈ before, other.score task < n) ∧ ∀ other ∈ after, other.score task ≤ n := by
  rw [List.find?_eq_some_iff_append]
  constructor
  · rintro ⟨hle, hscore, before, after, rfl, hbefore⟩
    refine ⟨before, after, rfl, by simpa using hscore, fun other hother => ?_, fun other hother => ?_⟩
    · have hne : other.score task ≠ n := by simpa using hbefore other hother
      exact lt_of_le_of_ne (hle other (List.mem_append_left _ hother)) hne
    · exact hle other (List.mem_append_right _ (List.mem_cons_of_mem _ hother))
  · rintro ⟨before, after, rfl, hscore, hbefore, hafter⟩
    refine ⟨?_, by simpa using hscore, before, after, rfl, fun other hother => ?_⟩
    · intro other hother
      rcases List.mem_append.1 hother with hother | hother
      · exact (hbefore other hother).le
      · rcases List.mem_cons.1 hother with rfl | hother
        · exact hscore.le
        · exact hafter other hother
    · simpa using (hbefore other hother).ne

/-! ### Other tables -/

/-- Forgetting keywords does not change a score. -/
theorem topScore_map_withoutKeywords (best : Option ReadingRoute) :
    topScore (best.map withoutKeywords) = topScore best := by
  cases best <;> rfl

/-- Choices that are the same but for the keywords stay so with one more category that says the
same. -/
theorem map_better_of_saysSame {best best' : Option ReadingRoute} {category category' : TaskCategory}
    (hbest : best'.map withoutKeywords = best.map withoutKeywords)
    (hsame : TaskCategory.SaysSame category category') :
    (better task best' category').map withoutKeywords =
      (better task best category).map withoutKeywords := by
  have htop : topScore best' = topScore best := by
    rw [← topScore_map_withoutKeywords best', hbest, topScore_map_withoutKeywords]
  rw [better, better]
  show (if topScore best' < category'.score task then _ else best').map _ =
    (if topScore best < category.score task then _ else best).map _
  rw [htop, hsame.score_eq]
  split_ifs
  · rw [Option.map_some, Option.map_some, withoutKeywords, withoutKeywords, hsame.fields_eq]
  · exact hbest

/-- Categories that say the same lead to the same choice, but for the keywords. -/
theorem classify_of_saysSame {table other : List TaskCategory}
    (h : List.Forall₂ TaskCategory.SaysSame table other) :
    (classify other task).map withoutKeywords = (classify table task).map withoutKeywords := by
  -- The scan may go on from any two choices that are the same but for the keywords.
  have hrun : ∀ {best best' : Option ReadingRoute},
      best'.map withoutKeywords = best.map withoutKeywords →
      (other.foldl (better task) best').map withoutKeywords =
        (table.foldl (better task) best).map withoutKeywords := by
    induction h with
    | nil => exact id
    | cons hsame _ ih => exact fun hbest => ih (map_better_of_saysSame hbest hsame)
  exact hrun rfl

/-- A further category is chosen exactly if the task scores higher in it than in all others, or as
high and in none in front of it; otherwise it makes no difference. -/
theorem classify_insert (before after : List TaskCategory) (category : TaskCategory) :
    classify (before ++ category :: after) task =
      if topScore (classify (before ++ after) task) < category.score task ∨
          0 < category.score task ∧
            category.score task = topScore (classify (before ++ after) task) ∧
            ∀ earlier ∈ before, earlier.score task < category.score task
      then some { category, score := category.score task }
      else classify (before ++ after) task := by
  have hsingle := topScore_classify_singleton task category
  -- Below a positive score means at most its predecessor, which is a bound on the choice in front.
  have hbefore : 0 < category.score task →
      ((∀ earlier ∈ before, earlier.score task < category.score task) ↔
        topScore (classify before task) < category.score task) := by
    intro hpositive
    rw [← Nat.le_sub_one_iff_lt hpositive, topScore_classify_le_iff]
    exact forall₂_congr fun _ _ => (Nat.le_sub_one_iff_lt hpositive).symm
  rw [← List.singleton_append, classify_append, classify_append, classify_append, topScore_later]
  split_ifs with htaken
  · have hpositive : 0 < category.score task := by omega
    have hless : topScore (classify before task) < category.score task := by
      rcases htaken with hmore | ⟨-, -, hfirst⟩
      · omega
      · exact (hbefore hpositive).1 hfirst
    have hafter : later (classify [category] task) (classify after task) =
        classify [category] task := later_of_le (by omega)
    rw [hafter, later_of_lt (by omega), classify_singleton, if_pos hpositive]
  · obtain ⟨hnotMore, hnotFirst⟩ := not_or.1 htaken
    rcases lt_or_ge (topScore (classify before task)) (category.score task) with hless | hle
    -- Something behind the category scores higher, or it would have been taken.
    · have hpositive : 0 < category.score task := Nat.zero_lt_of_lt hless
      have hmore : topScore (classify [category] task) < topScore (classify after task) := by
        by_contra hnot
        exact hnotFirst ⟨hpositive, by omega, (hbefore hpositive).2 hless⟩
      rw [later_of_lt hmore]
    · have hkeep : later (classify before task) (classify [category] task) = classify before task :=
        later_of_le (by omega)
      rw [← later_assoc, hkeep]

/-- A task belongs to no category exactly if it scores nowhere. Otherwise it belongs to the first of
those in which it scores highest, and scores are numbers of words. Categories that say the same lead
to the same choice: keywords may be put in another order, repeated and written in another case. A
further category makes a difference only if the task scores higher in it than in all others, or as
high and in none in front of it. -/
theorem classify_first_greatest (table : List TaskCategory) (task : String) :
    (∀ category : TaskCategory, category.score task =
      (category.words.filter fun word => word.toList <:+: Text.lower task.toList).card) ∧
    (classify table task = none ↔ ∀ category ∈ table, category.score task = 0) ∧
    (∀ route, classify table task = some route ↔
      0 < route.score ∧ (∀ category ∈ table, category.score task ≤ route.score) ∧
        table.find? (·.score task = route.score) = some route.category) ∧
    (∀ other, List.Forall₂ TaskCategory.SaysSame table other →
      (classify other task).map withoutKeywords = (classify table task).map withoutKeywords) ∧
    (∀ before after category keywords, table = before ++ category :: after →
      TaskCategory.IsRewriting category.keywords keywords →
      (classify (before ++ { category with keywords } :: after) task).map withoutKeywords =
        (classify table task).map withoutKeywords) ∧
    ∀ before after category, table = before ++ after →
      classify (before ++ category :: after) task =
        if topScore (classify table task) < category.score task ∨
            0 < category.score task ∧ category.score task = topScore (classify table task) ∧
              ∀ earlier ∈ before, earlier.score task < category.score task
        then some { category, score := category.score task }
        else classify table task := by
  refine ⟨fun category => category.score_eq_card task, classify_eq_none_iff, fun route => ?_,
    fun other hother => classify_of_saysSame hother, ?_, ?_⟩
  · rw [classify_eq_some_iff, first_greatest_iff]
  · rintro before after category keywords rfl hkeywords
    -- The other categories of the table stay as they are.
    have hrefl (categories : List TaskCategory) :
        List.Forall₂ TaskCategory.SaysSame categories categories :=
      List.forall₂_same.2 fun category _ => TaskCategory.SaysSame.refl category
    refine classify_of_saysSame (List.rel_append (hrefl before) (.cons ?_ (hrefl after)))
    exact category.saysSame_of_isRewriting hkeywords
  · rintro before after category rfl
    exact classify_insert before after category

/-- A category with keywords. -/
def plainCategory (name : String) (keywords : List String) : TaskCategory where
  name
  keywords
  primary := name
  sections := "all"
  timeBudget := "1 minute"
  fallback := none
  description := name

/-- A table in two categories of which a task may score the same. -/
def tieTable : List TaskCategory := [
  plainCategory "docs" ["readme"], plainCategory "tests" ["Test", "test", "clock"],
  plainCategory "time" ["CLOCK", "write"]]

/-- Of two categories with the same score the first one is chosen, however its keywords are written,
and a third one in front of it that mentions one word only makes no difference. -/
theorem classify_first_greatest_tieTable :
    let task := "Write a TEST with a Clock"
    let tests := plainCategory "tests" ["Test", "test", "clock"]
    let rewritten : List TaskCategory := [
      plainCategory "docs" ["readme"], plainCategory "tests" ["CLOCK", "Clock", "TEST"],
      plainCategory "time" ["CLOCK", "write"]]
    classify tieTable task = some { category := tests, score := 2 } ∧
      List.Forall₂ TaskCategory.SaysSame tieTable rewritten ∧
      (classify rewritten task).map withoutKeywords =
        some { category := plainCategory "tests" [], score := 2 } ∧
      classify (plainCategory "words" ["with"] :: tieTable) task = classify tieTable task := by
  intro task tests rewritten
  obtain ⟨-, -, hchosen, hsame, -, hinsert⟩ := classify_first_greatest tieTable task
  have htests : classify tieTable task = some { category := tests, score := 2 } :=
    (hchosen _).2 ⟨by decide, by decide +kernel, by decide +kernel⟩
  have hrewritten : List.Forall₂ TaskCategory.SaysSame tieTable rewritten :=
    .cons ⟨rfl, rfl⟩ (.cons ⟨by decide +kernel, rfl⟩ (.cons ⟨rfl, rfl⟩ .nil))
  refine ⟨htests, hrewritten, ?_, ?_⟩
  · rw [hsame rewritten hrewritten, htests]
    rfl
  · have hwords := hinsert [] tieTable (plainCategory "words" ["with"]) rfl
    rw [htests] at hwords ⊢
    refine hwords.trans (if_neg ?_)
    decide +kernel

end Task

end ReadingRoute

end PackageLint
