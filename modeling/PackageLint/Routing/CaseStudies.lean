import PackageLint.Run.Journal
import PackageLint.Text.Blank
import PackageLint.Text.Case
import PackageLint.Text.Glob
import PackageLint.Text.Lines

/-!
# Case studies

Case studies are files of a directory whose names follow a pattern. A task finds the first one, by
name, that mentions one of its longer words. A case study that cannot be read is passed over.

## Main results

* `search_of_wordsOf_eq_nil`: a task without longer words finds nothing.
-/

namespace PackageLint.CaseStudies

/-- The pattern that the names of case studies follow. -/
def pattern : List Char := "DISCOVERY-*.md".toList

/-- The least length of a word that is looked for. -/
def leastLength : Nat := 4

/-- The words of a task that are looked for, in lower case. -/
def wordsOf (task : String) : List (List Char) :=
  (Text.words (Text.lower task.toList)).filter (leastLength ≤ ·.length)

/-- The names of the case studies in a directory, in order. -/
def names (disk : Disk) (directory : Path) : List String :=
  ((disk.names directory).filter fun name =>
    Text.globMatches pattern name.toList && disk.isFile (directory.child name)).mergeSort
      fun a b => a ≤ b

/-- The text of a case study in lower case. What is no text in it is replaced. -/
def textOf (disk : Disk) (file : Path) : Except FileFault (List Char) :=
  (disk.readBytes file).map fun bytes =>
    Text.lower (Text.normalizeNewlines (Text.decodeLenient bytes))

/-- A case study mentions one of the words. -/
def mentions (words : List (List Char)) (text : List Char) : Bool :=
  words.any fun word => Text.occursIn word text

/-- The first of some case studies that mentions one of the words. -/
def searchIn (disk : Disk) (directory : Path) (words : List (List Char)) :
    List String → Run (Option String)
  | [] => pure none
  | name :: rest =>
    let file := directory.child name
    match textOf disk file with
    | .error fault => do
      Run.log .debug s!"Skipping case study {file.text}: {fault.message file}"
      searchIn disk directory words rest
    | .ok text =>
      if mentions words text then pure (some name) else searchIn disk directory words rest

/-- The first case study in a directory that mentions a word of a task. -/
def search (disk : Disk) (directory : Path) (task : String) : Run (Option String) :=
  let words := wordsOf task
  if words.isEmpty then pure none else searchIn disk directory words (names disk directory)

/-- A task without longer words finds nothing. -/
theorem search_of_wordsOf_eq_nil {task : String} (h : wordsOf task = []) (disk : Disk)
    (directory : Path) : search disk directory task = pure none := by
  simp [search, h]

end PackageLint.CaseStudies
