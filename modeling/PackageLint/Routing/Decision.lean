import PackageLint.Routing.CaseStudies
import PackageLint.Routing.Standard
import PackageLint.Run.Journal
import PackageLint.Text.Page

/-!
# Deciding what to read

A task is sorted into a category. For a failure that has to be mended the case studies are searched
first; what is found there takes the place of the advice of the category.

## Main results

* `ofTask_of_classify_eq_none`: a task of no category has neither case study nor advice.
-/

namespace PackageLint

/-- What is to be read for a task. -/
structure RoutingDecision where
  /-- The task. -/
  task : String
  /-- The category, if there is one. -/
  route : Option ReadingRoute := none
  /-- The case study that was found. -/
  caseStudy : Option String := none
  /-- Advice. -/
  guidance : List String := []
  deriving DecidableEq, Repr

namespace RoutingDecision

/-- The advice of the first category of a name. -/
def guidanceOf (table : List TaskCategory) (name : String) : List String :=
  ((table.find? (·.name = name)).map (·.guidance)).getD []

/-- The case study for a task of a category. -/
def caseStudy? (disk : Disk) (directory : Path) (category : TaskCategory) (task : String) :
    Run (Option String) :=
  if category.name = TaskCategory.bugFixName then CaseStudies.search disk directory task
  else pure none

/-- Decides what to read for a task. -/
def ofTask (table : List TaskCategory) (disk : Disk) (directory : Path) (task : String) :
    Run RoutingDecision :=
  match ReadingRoute.classify table task with
  | none => do
    Run.log .debug ("No category matched task " ++ Text.quoted task)
    return { task }
  | some route => do
    -- A case study takes the place of the advice.
    match ← caseStudy? disk directory route.category task with
    | some caseStudy =>
      Run.log .debug s!"Bug-fix task matched case study {caseStudy}"
      return { task, route, caseStudy }
    | none => return { task, route, guidance := guidanceOf table route.category.name }

/-! ### The plan for a reader -/

/-- The line below the task. -/
def rule : String := String.ofList (List.replicate 42 '━')

/-- The first lines of every plan. -/
def heading (task : String) : List String := [
  "🔍 Documentation Router", "=======================================", "",
  s!"📋 Task: \"{task}\"", rule]

/-- The lines for a task of no category. -/
def generalPlan (default : String) : List String := [
  "❌ Unable to classify task. Using general approach.", s!"📚 Read: {default}"]

/-- The lines for a case study. -/
def caseStudyPlan (name : String) : List String := [
  "🔍 Found relevant case study:", s!"📚 Read: {name} (5-10 minutes)",
  "✅ This is faster than reading general documentation"]

/-- The line for what is read if the document does not help. -/
def fallbackPlan (category : TaskCategory) : List String :=
  match category.fallback with
  | some fallback =>
    Text.onlyIf (!fallback.isEmpty && fallback ≠ category.primary)
      [s!"2. Fallback: {fallback} (if needed)"]
  | none => []

/-- The lines for the documents of a category. -/
def documentPlan (category : TaskCategory) (guidance checklist : List String) : List String :=
  ["📚 Reading Plan:", s!"1. Primary: {category.primary} - {category.sections}",
    s!"   ⏱️ Budget: {category.timeBudget}"] ++ fallbackPlan category ++
  Text.onlyIf (!guidance.isEmpty)
    (["", "💡 Specific Guidance:"] ++ guidance.map fun line => s!"   • {line}") ++
  ["", "✅ Verification Checklist:"] ++
  (Text.numbered checklist).map fun line => s!"   {line.1}. {line.2}"

/-- The lines for a task of a category. -/
def routePlan (decision : RoutingDecision) (route : ReadingRoute) (checklist : List String) :
    List String :=
  let category := route.category
  [s!"🎯 Task Type: {category.description}", s!"📊 Confidence Score: {route.score}",
    s!"⏱️ Reading Budget: {category.timeBudget}", ""] ++
  match decision.caseStudy.filter (!·.isEmpty) with
  | some name => caseStudyPlan name
  | none => documentPlan category decision.guidance checklist

/-- The plan for a reader. -/
def plan (decision : RoutingDecision) : String :=
  Text.page <| heading decision.task ++
    match decision.route with
    | none => generalPlan TaskCategory.defaultPlan
    | some route => routePlan decision route TaskCategory.checklist

/-- A task of no category has neither case study nor advice. -/
theorem ofTask_of_classify_eq_none {table : List TaskCategory} {task : String}
    (h : ReadingRoute.classify table task = none) (disk : Disk) (directory : Path) :
    (ofTask table disk directory task).result = .ok { task } := by
  simp only [ofTask, h]
  rfl

end RoutingDecision

end PackageLint
