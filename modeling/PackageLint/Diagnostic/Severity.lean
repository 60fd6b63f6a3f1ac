import PackageLint.Document.Value
import PackageLint.Text.Blank
import PackageLint.Text.Case

/-!
# Severities and categories

The closed sets of severities and categories of a diagnostic, their names, and how names from
elsewhere are read. Reading never fails: an unknown severity is informational, an unknown category
is the category `unknown`.

## Main results

* `Severity.ofName_name`, `Category.ofName_name`: names are read back;
* `Severity.ofValue_eq_info_of_text?_eq_none`: what is no text is informational;
* `Severity.atLeast_trans`: the order of severities is transitive.
-/

namespace PackageLint

/-- How bad a finding is. -/
inductive Severity
  /-- Worth knowing. -/
  | info
  /-- Should be looked at. -/
  | warning
  /-- Has to be mended. -/
  | error
  /-- Has to be mended at once. -/
  | critical
  deriving DecidableEq, Repr

/-- What a finding is about. -/
inductive Category
  /-- How the package is set up. -/
  | configuration
  /-- What the package depends on. -/
  | dependency
  /-- How the package compiles. -/
  | compilation
  /-- How fast the package builds. -/
  | performance
  /-- None of these. -/
  | unknown
  deriving DecidableEq, Repr

namespace Severity

/-- The place of a severity in their order. -/
def rank : Severity → Nat
  | info => 1
  | warning => 2
  | error => 3
  | critical => 4

/-- A severity is as bad as another one, or worse. -/
def atLeast (s other : Severity) : Bool := other.rank ≤ s.rank

/-- The name of a severity. -/
def name : Severity → String
  | info => "info"
  | warning => "warning"
  | error => "error"
  | critical => "critical"

/-- The sign that stands in front of a finding. -/
def glyph : Severity → String
  | info => "ℹ️"
  | warning => "⚠️"
  | error => "❌"
  | critical => "🚨"

/-- The severity that a name means, in any case and with blanks around it. -/
def ofName (s : String) : Severity :=
  match Text.lowered (Text.trimmed s) with
  | "critical" => critical
  | "high" | "error" => error
  | "medium" | "warning" => warning
  | _ => info

/-- The severity that a value of a document means. -/
def ofValue : Value → Severity
  | .text s => ofName s
  | _ => info

/-- A severity is read from its own name. -/
@[simp]
theorem ofName_name (s : Severity) : ofName s.name = s := by cases s <;> decide

/-- A value that is no text is informational. -/
theorem ofValue_eq_info_of_text?_eq_none {v : Value} (h : v.text? = none) : ofValue v = info := by
  unfold Value.text? at h
  unfold ofValue
  split at h <;> simp_all

@[simp] theorem atLeast_self (s : Severity) : s.atLeast s = true := by simp [atLeast]

/-- The order of severities is transitive. -/
theorem atLeast_trans {a b c : Severity} (h : a.atLeast b = true) (h' : b.atLeast c = true) :
    a.atLeast c = true := by
  simp only [atLeast, decide_eq_true_eq] at *
  exact Nat.le_trans h' h

end Severity

namespace Category

/-- The name of a category. -/
def name : Category → String
  | configuration => "configuration"
  | dependency => "dependency"
  | compilation => "compilation"
  | performance => "performance"
  | unknown => "unknown"

/-- The category that a name means, in any case and with blanks around it. -/
def ofName (s : String) : Category :=
  match Text.lowered (Text.trimmed s) with
  | "configuration" => configuration
  | "dependency" => dependency
  | "compilation" => compilation
  | "performance" => performance
  | _ => unknown

/-- The category that a value of a document means. -/
def ofValue : Value → Category
  | .text s => ofName s
  | _ => unknown

/-- A category is read from its own name. -/
@[simp]
theorem ofName_name (c : Category) : ofName c.name = c := by cases c <;> decide

end Category

end PackageLint
