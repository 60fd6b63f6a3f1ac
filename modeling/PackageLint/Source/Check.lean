import PackageLint.Source.Composition
import PackageLint.Source.Dependency
import PackageLint.Text.Lines

/-!
# Checking a source file

The checks of a file go through its lines. A line is judged by its code and by the lines behind
it, never by the lines before it: a trigger opens a block that begins with the next line, and a
dependency declaration is judged by itself.

## Main results

* `checkLinesFrom_cons`: the findings of a line stand before those of the lines behind it.
-/

namespace PackageLint.Source

open Text

/-- What is said of a line that declares a dependency. -/
def dependencyFindings (location : Location) (code : Line) : List Diagnostic :=
  let holds (token : String) : Bool := occursIn token.toList code
  if holds "@Dependency" then
    let dateNow :=
      if holds "date.now" then [finding .error location
        "Incorrect date.now access - should use date() for callable DateGenerator"
        "Replace date.now with date() - @Dependency(\\.date) provides a function, not a property"]
      else []
    let nonSendable :=
      if holds "var " && !holds "@State" then
        ((declaration? code).bind (nonSendableFinding location)).toList
      else []
    dateNow ++ nonSendable
  else []

/-- What is said of a line, given the lines behind it. -/
def checkLine (vocabulary : Vocabulary) (location : Location) (line : Line) (rest : List Line) :
    List Diagnostic :=
  let code := withoutComment line
  let body :=
    if occursIn vocabulary.bodyTrigger.toList code then checkBody vocabulary location rest else []
  let builder :=
    if occursIn vocabulary.builderTrigger.toList code then checkBuilder vocabulary location rest
    else []
  body ++ builder ++ dependencyFindings location code

/-- What is said of lines of which the first has the given number. -/
def checkLinesFrom (vocabulary : Vocabulary) (file : String) (number : Nat) :
    List Line → List Diagnostic
  | [] => []
  | line :: rest =>
    checkLine vocabulary { file, line := some number } line rest ++
      checkLinesFrom vocabulary file (number + 1) rest

/-- What is said of the lines of a file. -/
def checkLines (vocabulary : Vocabulary) (file : String) (lines : List Line) : List Diagnostic :=
  checkLinesFrom vocabulary file 1 lines

/-- What is said of the text of a file. -/
def check (vocabulary : Vocabulary) (file : String) (text : List Char) : List Diagnostic :=
  checkLines vocabulary file (splitLines text)

/-- Findings come line by line. -/
theorem checkLinesFrom_cons (vocabulary : Vocabulary) (file : String) (number : Nat) (line : Line)
    (rest : List Line) :
    checkLinesFrom vocabulary file number (line :: rest) =
      checkLine vocabulary { file, line := some (number : Int) } line rest ++
        checkLinesFrom vocabulary file (number + 1) rest := rfl

end PackageLint.Source
