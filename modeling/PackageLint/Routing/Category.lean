import PackageLint.Document.Distinct
import PackageLint.Text.Case
import PackageLint.Text.Search

/-!
# Categories of tasks

A category has keywords; a task scores one point for each of them that its text mentions, in any
case. Of the categories in a table the one with the highest score is chosen, the first of them
where several have it, and none where no keyword is mentioned.

## Main results

* `TaskCategory.nodup_terms`: no term is counted twice;
* `ReadingRoute.classify_append_singleton`: a further category is compared with what was chosen
  before it.
-/

namespace PackageLint

/-- A kind of task and what is to be read for it. -/
structure TaskCategory where
  /-- The name of the category. -/
  name : String
  /-- The words that point to the category. -/
  keywords : List String
  /-- The document to be read. -/
  primary : String
  /-- The sections of the document. -/
  sections : String
  /-- How long reading takes. -/
  timeBudget : String
  /-- What to read if the document does not help. -/
  fallback : Option String
  /-- What the category is about. -/
  description : String
  /-- Advice for tasks of the category. -/
  guidance : List String := []
  deriving DecidableEq, Repr

namespace TaskCategory

/-- The keywords in lower case, each once. -/
def terms (category : TaskCategory) : List String := distinct (category.keywords.map Text.lowered)

/-- The number of terms that a text in lower case mentions. -/
def scoreIn (text : List Char) (category : TaskCategory) : Nat :=
  category.terms.countP fun term => Text.occursIn term.toList text

/-- The score of a task. -/
def score (task : String) (category : TaskCategory) : Nat :=
  category.scoreIn (Text.lower task.toList)

/-- No term is counted twice. -/
theorem nodup_terms (category : TaskCategory) : category.terms.Nodup := nodup_distinct _

/-- A category without keywords never scores. -/
theorem score_of_keywords_eq_nil {category : TaskCategory} (h : category.keywords = [])
    (task : String) : category.score task = 0 := by
  simp [score, scoreIn, terms, h]

end TaskCategory

/-- A category that was chosen for a task, and its score. -/
structure ReadingRoute where
  /-- The category. -/
  category : TaskCategory
  /-- The score of the task. -/
  score : Nat
  deriving DecidableEq, Repr

namespace ReadingRoute

/-- The better of what was chosen so far and a category: only a higher score makes a change. -/
def better (task : String) (best : Option ReadingRoute) (category : TaskCategory) :
    Option ReadingRoute :=
  let score := category.score task
  if best.elim 0 (·.score) < score then some { category, score } else best

/-- The category of a table that a task belongs to. -/
def classify (table : List TaskCategory) (task : String) : Option ReadingRoute :=
  table.foldl (better task) none

@[simp] theorem classify_nil (task : String) : classify [] task = none := rfl

/-- One more category at the end of the table is compared with what was chosen before. -/
theorem classify_append_singleton (table : List TaskCategory) (category : TaskCategory)
    (task : String) :
    classify (table ++ [category]) task = better task (classify table task) category := by
  simp [classify]

end ReadingRoute

end PackageLint
