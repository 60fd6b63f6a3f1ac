import PackageLint.Text.Blank
import PackageLint.Text.Search

/-!
# Pages

What is shown to a reader: lines one below the other. Blanks at the end of a page are left out, so
that empty lines behind the last entry of a list do no harm.
-/

namespace PackageLint.Text

/-- A text without the blanks at its end. -/
def withoutTrailingBlanks (s : String) : String := .ofList (trimEnd s.toList)

/-- Lines one below the other. -/
def page (lines : List String) : String := withoutTrailingBlanks (joinWith "\n" lines)

/-- Lines that are shown under a condition. -/
def onlyIf (condition : Bool) (lines : List String) : List String := if condition then lines else []

/-- Lines with their numbers, from one on. -/
def numbered (lines : List String) : List (Nat × String) := (List.range' 1 lines.length).zip lines

/-- Nothing is shown on a page without lines. -/
@[simp] theorem page_nil : page [] = "" := rfl

@[simp] theorem onlyIf_true (lines : List String) : onlyIf true lines = lines := rfl

@[simp] theorem onlyIf_false (lines : List String) : onlyIf false lines = [] := rfl

@[simp] theorem length_numbered (lines : List String) : (numbered lines).length = lines.length := by
  simp [numbered]

end PackageLint.Text
