import PackageLint.Rules.Table

/-!
# The standard rules

The rules that apply where a configuration names no rules of its own.
-/

namespace PackageLint.RuleTables

/-- A rule of the standard tables. -/
def standardRule (kind : RuleKind) (severity : Severity) (pattern message reference : String) :
    Rule :=
  { pattern, message, kind, reference, severity }

/-- Praise of the standard tables. -/
def standardPraise (pattern message : String) : Rule := { pattern, message, kind := .required }

/-- The tables that apply where no others are named. -/
def standard : RuleTables where
  deprecated := [
    standardRule .deprecated .error "WithViewStore"
      "WithViewStore is deprecated. Use @Bindable instead" "AGENTS-TCA-PATTERNS.md Mistake 1",
    standardRule .deprecated .error "ViewStore\\("
      "ViewStore initialization is deprecated. Use @Bindable"
      "AGENTS-TCA-PATTERNS.md Quick Reference",
    standardRule .deprecated .error "@Perception\\.Bindable"
      "@Perception.Bindable is deprecated. Use TCA @Bindable"
      "AGENTS-TCA-PATTERNS.md Quick Reference"]
  antiPatterns := [
    standardRule .antiPattern .error "@State.*var.*State"
      "@State should not be used for TCA State. Use @ObservableState"
      "AGENTS-AGNOSTIC.md lines 24-29",
    standardRule .antiPattern .error "Shared\\("
      "Wrong Shared constructor. Use Shared(wrappedValue:)"
      "AGENTS-TCA-PATTERNS.md Pattern 5, Mistake 5",
    standardRule .antiPattern .warning "Task\\.detached"
      "Task.detached is discouraged. Use Task \x7b @MainActor in \x7d"
      "AGENTS-AGNOSTIC.md lines 28",
    standardRule .antiPattern .warning "Date\\(\\)"
      "Direct Date() calls. Use dependencies instead" "AGENTS-AGNOSTIC.md lines 419-440"]
  required := [
    standardPraise "@Reducer" "Using modern @Reducer macro",
    standardPraise "@ObservableState" "Using @ObservableState for state",
    standardPraise "@Bindable" "Using @Bindable for view bindings"]
  contextual := [{
    marker := ".sheet("
    rules := [standardRule .contextual .warning "\\.sheet\\(item:.*\\$\\w+\\.state"
      ".sheet(item:) with state binding - ensure proper lifecycle"
      "AGENTS-TCA-PATTERNS.md Pattern 2"] }]

/-- There are eleven standard rules. -/
theorem count_standard : standard.count = 11 := by decide

end PackageLint.RuleTables
