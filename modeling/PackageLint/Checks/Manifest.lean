import PackageLint.Checks.Basic
import PackageLint.Source.Code

/-!
# The check of the manifest

The manifest has to be a text, not empty, and has to call `Package(` outside of a comment.

## Main results

* `manifestFindings_eq_nil`: a manifest that declares its package is in order.
-/

namespace PackageLint

/-- Some line of a manifest declares the package. -/
def declaresPackage (manifest : List Char) : Bool :=
  (Text.splitLines manifest).any fun line =>
    Text.occursIn "Package(".toList (Source.withoutComment line)

namespace Checks

/-- A finding about the manifest. -/
def manifestFinding (message suggestion : String) : Diagnostic :=
  { severity := .error, category := .configuration, message, suggestion }

/-- What is said of the text of a manifest. -/
def manifestFindings (text : List Char) : List Diagnostic :=
  if Text.isAllBlank text then
    [manifestFinding "Package.swift is empty" "Add proper package manifest content"]
  else if declaresPackage text then []
  else [manifestFinding "Package.swift does not declare a Package"
    "Define the manifest with 'let package = Package(name: ...)'"]

/-- The check of the manifest. -/
def manifest : Check where
  name := "manifest"
  title := "ManifestAnalyzer"
  supports _ := true
  run context := return match context.disk.readText context.manifest with
    | .ok text => manifestFindings text
    | .error fault => [manifestFinding s!"Cannot read Package.swift: {fault.message}"
        "Check file permissions and encoding"]

/-- A manifest that declares its package is in order. -/
theorem manifestFindings_eq_nil {text : List Char} (h : declaresPackage text = true)
    (hb : Text.isAllBlank text = false) : manifestFindings text = [] := by
  simp [manifestFindings, h, hb]

end Checks

end PackageLint
