import PackageLint.Routing.Category

/-!
# The standard table of categories

The categories that tasks are sorted into, in the order that decides between equal scores, the plan
for tasks of no category, and what is to be verified in the end.
-/

namespace PackageLint.TaskCategory

/-- The name of the category whose tasks are looked up among the case studies. -/
def bugFixName : String := "bugFix"

/-- What is read for a task of no category. -/
def defaultPlan : String := "QUICK-START.md entire document (5 minutes max)"

/-- What is to be verified in the end. -/
def checklist : List String := [
  "Code compiles (swiftc -typecheck)",
  "Follows Smith patterns (no red flags)",
  "Within reading budget",
  "Passes relevant verification checklist"]

/-- Tests. -/
def testing : TaskCategory where
  name := "testing"
  keywords := ["test", "Test", "@Test", "#expect", "TestClock", "testing"]
  primary := "QUICK-START.md"
  sections := "Rules 6-7"
  timeBudget := "2 minutes"
  fallback := "AGENTS-AGNOSTIC.md lines 75-111"
  description := "Testing patterns with Swift Testing framework"
  guidance := [
    "Use @Test and #expect(), never XCTest",
    "Mark TCA tests @MainActor",
    "Use TestClock() for deterministic time"]

/-- Reducers and their state. -/
def reducers : TaskCategory where
  name := "tcaReducer"
  keywords := ["reducer", "Reducer", "@Reducer", "State", "Action", "reduce"]
  primary := "QUICK-START.md"
  sections := "Rules 2-4"
  timeBudget := "3 minutes"
  fallback := "AGENTS-TCA-PATTERNS.md specific pattern"
  description := "TCA reducer patterns and state management"
  guidance := [
    "Check for deprecated WithViewStore",
    "Verify @Shared patterns (single owner)",
    "Use modern @Reducer macro syntax"]

/-- Entities in space. -/
def spatial : TaskCategory where
  name := "visionOS"
  keywords := ["visionOS", "RealityView", "PresentationComponent", "Entity", "Model3D"]
  primary := "QUICK-START.md"
  sections := "Rule 9"
  timeBudget := "2 minutes"
  fallback := "PLATFORM-VISIONOS.md + DISCOVERY-4"
  description := "visionOS entity patterns and 3D components"

/-- Injected dependencies. -/
def dependencies : TaskCategory where
  name := "dependencies"
  keywords := ["dependency", "@Dependency", "@DependencyClient", "Date()", "UUID()"]
  primary := "QUICK-START.md"
  sections := "Rule 5"
  timeBudget := "2 minutes"
  fallback := "AGENTS-DECISION-TREES.md Tree 2"
  description := "Dependency injection patterns"

/-- Who may use what. -/
def accessControl : TaskCategory where
  name := "accessControl"
  keywords := ["access control", "public", "internal", "private", "fileprivate"]
  primary := "QUICK-START.md"
  sections := "Rule 8 + DISCOVERY-5"
  timeBudget := "5 minutes"
  fallback := "AGENTS-AGNOSTIC.md lines 443-598"
  description := "Access control and public API boundaries"
  guidance := [
    "Trace transitive dependencies when making public",
    "Check cascade failures before assuming type errors"]

/-- Decisions on the design. -/
def architecture : TaskCategory where
  name := "architecture"
  keywords := ["architecture", "pattern", "design", "should I use", "which approach"]
  primary := "AGENTS-DECISION-TREES.md"
  sections := "relevant tree"
  timeBudget := "5 minutes"
  fallback := "AGENTS-TASK-SCOPE.md"
  description := "Architecture decision guidance"

/-- Failures that have to be mended. -/
def bugFix : TaskCategory where
  name := bugFixName
  keywords := ["bug", "error", "fix", "broken", "not working", "compile error"]
  primary := "Search CaseStudies/"
  sections := "search by symptom"
  timeBudget := "2 minutes"
  fallback := "Read matching DISCOVERY"
  description := "Bug resolution and error fixing"
  guidance := [
    "Search case studies by symptom first",
    "Check compilation before pattern analysis"]

/-- Ways through the screens. -/
def navigation : TaskCategory where
  name := "navigation"
  keywords := ["navigation", "sheet", "fullScreenCover", "popover", "NavigationStack"]
  primary := "AGENTS-TCA-PATTERNS.md"
  sections := "Pattern 2 (optional state)"
  timeBudget := "5 minutes"
  fallback := none
  description := "SwiftUI navigation patterns with TCA"
  guidance := [
    "Optional state = .sheet(item:) + .scope()",
    "Conditional UI = if/else in view",
    "NEVER use .sheet() for toolbar items"]

/-- Things that happen at the same time. -/
def concurrency : TaskCategory where
  name := "concurrency"
  keywords := ["Task", "async", "await", "MainActor", "concurrent"]
  primary := "AGENTS-AGNOSTIC.md"
  sections := "lines 24-29 + 162-313"
  timeBudget := "5 minutes"
  fallback := none
  description := "Concurrency patterns and main actor usage"

/-- Reducers inside of reducers. -/
def nestedReducers : TaskCategory where
  name := "nestedReducers"
  keywords := ["nested reducer", "child feature", "extract reducer", "Scope"]
  primary := "DISCOVERY-14-NESTED-REDUCER-GOTCHAS.md"
  sections := "entire document"
  timeBudget := "5 minutes"
  fallback := none
  description := "Nested @Reducer patterns and gotchas"

/-- What a program says of itself. -/
def logging : TaskCategory where
  name := "logging"
  keywords := ["print", "oslog", "Logger", "log", "debug"]
  primary := "DISCOVERY-15-PRINT-OSLOG-PATTERNS.md"
  sections := "appropriate section"
  timeBudget := "3 minutes"
  fallback := none
  description := "Print vs OSLog logging patterns"

/-- The standard table. -/
def standard : List TaskCategory := [testing, reducers, spatial, dependencies, accessControl,
  architecture, bugFix, navigation, concurrency, nestedReducers, logging]

/-- No name stands twice in the standard table. -/
theorem nodup_standard_names : (standard.map (·.name)).Nodup := by decide

end PackageLint.TaskCategory
