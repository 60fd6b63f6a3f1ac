import PackageLint.Document.Distinct
import PackageLint.Diagnostic.Basic
import PackageLint.Text.WordTable
import PackageLint.Toolchain.Comparison

/-!
# Macros

Which frameworks of macros a manifest mentions, which known failures the manifest and the outputs
of two builds show, and what can be done about them.

## Main results

* `findings_of_issues_eq_nil`: nothing is said where nothing failed.
-/

namespace PackageLint

/-- A framework that brings macros. -/
inductive MacroFramework
  /-- The composable architecture. -/
  | composableArchitecture
  /-- Persistent models. -/
  | swiftData
  /-- Dependency injection. -/
  | dependencies
  /-- Observation. -/
  | perception
  /-- Macros of the package itself. -/
  | customMacros
  deriving DecidableEq, Repr

namespace MacroFramework

/-- The name of a framework. -/
def name : MacroFramework → String
  | composableArchitecture => "tca"
  | swiftData => "swiftData"
  | dependencies => "dependencies"
  | perception => "perception"
  | customMacros => "customMacros"

/-- The name where there is no framework. -/
def unknownName : String := "unknown"

/-- The frameworks with marks of their own, and the marks. -/
def marks : List (MacroFramework × List String) := [
  (composableArchitecture, ["swift-composable-architecture"]),
  (swiftData, ["SwiftData", "@Model", "@ObservableModel"]),
  (dependencies, ["swift-dependencies", "@Dependency"]),
  (perception, ["swift-perception", "@Perception"])]

/-- An attribute stands somewhere in the text. -/
def hasAttribute : List Char → Bool
  | '@' :: c :: rest => Text.isWordChar c || hasAttribute (c :: rest)
  | _ :: rest => hasAttribute rest
  | [] => false

/-- The frameworks that a manifest mentions, in order of precedence. Any attribute stands for
macros of the package where no framework is mentioned. -/
def detect (manifest : List Char) : List MacroFramework :=
  let mentioned (needles : List String) : Bool :=
    needles.any fun needle => Text.occursIn needle.toList manifest
  let found := (marks.filter fun entry => mentioned entry.2).map (·.1)
  if found.isEmpty && hasAttribute manifest then [customMacros] else found

/-- What can be done about the macros of a framework. -/
def recommendations : MacroFramework → List String
  | composableArchitecture => [
    "For TCA @Reducer issues, try adding @Reducer(state: .equatable, .sendable)",
    "Check for missing State conformance in domain models"]
  | swiftData => [
    "For SwiftData @Model issues, try -skipMacroValidation flag",
    "Verify @ObservableModel usage and macro expansion"]
  | dependencies => [
    "For @DependencyClient issues, check client conformance",
    "Verify @Dependency key paths and registration"]
  | perception => [
    "For Perception, verify @Perception usage with ObservableObject and proper import statements"]
  | customMacros => ["For custom macros, verify macro implementation and expansion behavior"]

end MacroFramework

/-- A known failure of macros. -/
inductive MacroIssue
  /-- A conformance is written by hand that the macro would write. -/
  | equatableConformance
  /-- The plugin is not allowed to run. -/
  | executionPolicy
  /-- The build fails only where macros are validated. -/
  | validationFailure
  /-- The plugin is missing. -/
  | missingImplementation
  /-- The expansion takes too long. -/
  | expansionTimeout
  deriving DecidableEq, Repr

namespace MacroIssue

/-- The name of a failure. -/
def name : MacroIssue → String
  | equatableConformance => "SWIFT6_EQUATABLE_BUG"
  | executionPolicy => "EXECUTION_POLICY_EXCEPTION"
  | validationFailure => "MACRO_VALIDATION_FAILURE"
  | missingImplementation => "EXTERNAL_MACRO_NOT_FOUND"
  | expansionTimeout => "MACRO_EXPANSION_TIMEOUT"

/-- What a failure is. -/
def description : MacroIssue → String
  | equatableConformance => "Swift 6 @Reducer State conformance synthesis issue"
  | executionPolicy =>
    "Macro plugin blocked by execution policy (RegisterExecutionPolicyException)"
  | validationFailure => "Build fails only when macro validation is enabled"
  | missingImplementation => "External macro implementation could not be found"
  | expansionTimeout => "Macro expansion timed out"

/-- How bad a failure is, by a name. -/
def severityName : MacroIssue → String
  | executionPolicy => "critical"
  | expansionTimeout => "medium"
  | _ => "high"

/-- How a failure is mended. -/
def fix : MacroIssue → String
  | equatableConformance =>
    "Use @Reducer(state: .equatable, .sendable) instead of manual conformances"
  | executionPolicy => "Trust the macro plugin in Xcode or build with -skipMacroValidation"
  | validationFailure => "Build with -Xswiftc -skipMacroValidation and update the macro package"
  | missingImplementation =>
    "Clean the build folder and re-resolve packages so the macro plugin is rebuilt"
  | expansionTimeout => "Simplify macro-annotated types or split large declarations"

/-- The failures that a manifest shows. -/
def ofManifest (manifest : List Char) : List MacroIssue :=
  let holds (needle : String) : Bool := Text.occursIn needle.toList manifest
  if holds "swift-composable-architecture" && holds "@Reducer" &&
      (holds "State: Equatable" || holds "State: Sendable") then [equatableConformance]
  else []

/-- The failures that two builds show. -/
def ofComparison (comparison : BuildComparison) : List MacroIssue :=
  let holds (needle : String) : Bool := Text.contains comparison.normal needle
  let shown (condition : Bool) (issue : MacroIssue) : List MacroIssue :=
    if condition then [issue] else []
  shown (holds "RegisterExecutionPolicyException") executionPolicy ++
    shown (holds "error" && !Text.contains comparison.skipped "error") validationFailure ++
    shown (holds "External macro implementation could not be found") missingImplementation ++
    shown (holds "macro expansion timeout" || holds "timed out") expansionTimeout

/-- What is said of a failure. -/
def finding (issue : MacroIssue) : Diagnostic where
  severity := .ofName issue.severityName
  category := .compilation
  message := s!"Macro Issue: {issue.description}"
  suggestion := issue.fix

end MacroIssue

/-- What is known of the macros of a package. -/
structure MacroReport where
  /-- The frameworks. -/
  frameworks : List MacroFramework := []
  /-- The failures. -/
  issues : List MacroIssue := []
  deriving DecidableEq, Repr

namespace MacroReport

/-- The framework that goes before the others. -/
def primary? (report : MacroReport) : Option MacroFramework := report.frameworks.head?

/-- The name of the framework that goes before the others. -/
def primaryName (report : MacroReport) : String :=
  report.primary?.elim MacroFramework.unknownName (·.name)

/-- What can be done about the macros. -/
def recommendations (report : MacroReport) : List String :=
  report.primary?.elim [] (·.recommendations)

/-- What is said of the macros. -/
def findings (report : MacroReport) : List Diagnostic :=
  let hint : Diagnostic := {
    severity := .info
    category := .compilation
    message := "Macro diagnostic recommendations available"
    suggestion := "Review framework-specific macro usage patterns" }
  report.issues.map (·.finding) ++
    (if report.issues.isEmpty || report.recommendations.isEmpty then [] else [hint])

/-- Nothing is said where nothing failed. -/
@[simp] theorem findings_of_issues_eq_nil (frameworks : List MacroFramework) :
    (MacroReport.mk frameworks []).findings = [] := rfl

end MacroReport

end PackageLint
