import PackageLint.Diagnostic.Basic
import PackageLint.Source.Block
import PackageLint.Source.Vocabulary
import PackageLint.Text.Search

/-!
# Composition of reducers

How deep groupings are nested in a block, and how many of its lines are implicit compositions,
conditions or components. A body is judged by its nesting and its implicit compositions, a builder
by its components and by a score in which a component counts twice.

## Main results

* `checkBody_eq` and `checkBuilder_eq`: a verdict is that on the measure of a block.
-/

namespace PackageLint.Source

open Text

/-- A line on which groupings are nested more than one level deep. -/
structure NestingProblem where
  /-- The line in the block, counted from one. -/
  line : Nat
  /-- The level that the line reaches. -/
  level : Nat
  deriving DecidableEq, Repr

/-- What is known of the groupings of a block after some of its lines. -/
structure Nesting where
  /-- The number of groupings that are open. -/
  level : Nat := 0
  /-- The lines on which the open groupings began, the last one first. -/
  openings : List Nat := []
  /-- The deepest level so far. -/
  deepest : Nat := 0
  /-- The lines that reached a level above one. -/
  problems : List NestingProblem := []
  deriving DecidableEq, Repr

namespace Nesting

/-- A line opens as many groupings as it holds grouping tokens. -/
def openGroups (state : Nesting) (index count : Nat) : Nesting :=
  if count = 0 then state
  else
    let level := state.level + count
    { level
      openings := List.replicate count index ++ state.openings
      deepest := max state.deepest level
      problems :=
        if 1 < level then state.problems ++ [⟨index + 1, level⟩] else state.problems }

/-- A closing brace closes the grouping that was opened last. -/
def closeGroups (state : Nesting) (count : Nat) : Nesting :=
  -- Braces beyond the open groupings close something else.
  let popped := min count state.openings.length
  { state with level := state.level - popped, openings := state.openings.drop popped }

/-- The state after one more line: its groupings are opened before its braces close any. -/
def step (token : String) (state : Nesting) (index : Nat) (line : Line) : Nesting :=
  let body := trim line
  (state.openGroups index (countOf token.toList body)).closeGroups (closingBraces body)

/-- The state after lines of which the first has the given index. -/
def run (token : String) (state : Nesting) (index : Nat) : List Line → Nesting
  | [] => state
  | line :: rest => run token (state.step token index line) (index + 1) rest

end Nesting

/-- The nesting of the groupings in a block. -/
def nesting (vocabulary : Vocabulary) (lines : List Line) : Nesting :=
  Nesting.run vocabulary.groupingToken {} 0 lines

/-- The wording of a nesting problem. -/
def NestingProblem.message (vocabulary : Vocabulary) (problem : NestingProblem) : String :=
  let name : String := .ofList
    (vocabulary.groupingToken.toList.reverse.dropWhile (· = '(')).reverse
  s!"Line {problem.line}: Nested {name} at level {problem.level}"

/-- One of the tokens stands on the line. -/
def holdsAny (tokens : List String) (line : Line) : Bool :=
  tokens.any fun token => occursIn token.toList line

/-- One of the tokens starts the line. -/
def startsWith (tokens : List String) (line : Line) : Bool :=
  tokens.any fun token => token.toList.isPrefixOf line

/-- The line is a component: it wraps nothing, and a literal or the pattern marks it. -/
def isComponent (vocabulary : Vocabulary) (line : Line) : Bool :=
  let body := trim line
  !holdsAny vocabulary.wrapperTokens body &&
    (holdsAny vocabulary.componentLiterals body || vocabulary.isComponentCall body)

/-- The line composes a reducer implicitly. -/
def isImplicit (vocabulary : Vocabulary) (line : Line) : Bool :=
  let body := trim line
  !(isBlankOrComment body || "\x7d".toList.isPrefixOf body) &&
    !holdsAny vocabulary.wrapperTokens body && isComponent vocabulary body

/-- The line holds a condition. -/
def isConditional (vocabulary : Vocabulary) (line : Line) : Bool :=
  let body := trim line
  !isBlankOrComment body &&
    (startsWith vocabulary.conditionalPrefixes body || holdsAny vocabulary.ternaryMarkers body)

/-- The line is a component of a builder: no condition, no branch and no closing brace. -/
def isBuilderComponent (vocabulary : Vocabulary) (line : Line) : Bool :=
  let body := trim line
  let excluded := "\x7d" :: vocabulary.conditionalPrefixes ++ vocabulary.branchPrefixes
  !(isBlankOrComment body || startsWith excluded body) && isComponent vocabulary body

/-- The number of implicit compositions in a block. -/
def implicitCount (vocabulary : Vocabulary) (lines : List Line) : Nat :=
  lines.countP (isImplicit vocabulary)

/-- The number of lines with a condition in a block. -/
def conditionalCount (vocabulary : Vocabulary) (lines : List Line) : Nat :=
  lines.countP (isConditional vocabulary)

/-- The number of components in the block of a builder. -/
def componentCount (vocabulary : Vocabulary) (lines : List Line) : Nat :=
  lines.countP (isBuilderComponent vocabulary)

/-- The measure of a block. -/
structure Measure where
  /-- The deepest level of nesting. -/
  nesting : Nat := 0
  /-- The number of implicit compositions. -/
  implicit : Nat := 0
  /-- The number of lines with a condition. -/
  conditional : Nat := 0
  /-- The number of components. -/
  components : Nat := 0
  deriving DecidableEq, Repr

/-- The measure of the lines of a block. -/
def measure (vocabulary : Vocabulary) (lines : List Line) : Measure where
  nesting := (nesting vocabulary lines).deepest
  implicit := implicitCount vocabulary lines
  conditional := conditionalCount vocabulary lines
  components := componentCount vocabulary lines

/-- A finding about how code compiles. -/
def finding (severity : Severity) (location : Location) (message suggestion : String) :
    Diagnostic :=
  { severity, category := .compilation, message, location, suggestion }

/-- What is said of groupings that are nested. -/
def nestingFindings (level : Nat) (location : Location) : List Diagnostic :=
  if 1 < level then [finding .error location
    (s!"CRITICAL: Nested CombineReducers detected (level {level})" ++
      " - causes exponential type inference explosion")
    ("Flatten composition by calling @ReducerBuilder functions directly, removing nested " ++
      "CombineReducers calls. Example: var body \x7b group1(); group2() \x7d")]
  else []

/-- What is said of a number of implicit compositions. -/
def implicitFindings (count : Nat) (location : Location) : List Diagnostic :=
  if 5 ≤ count then [finding .error location
    s!"Excessive implicit composition: {count} reducers in body - causes type inference explosion"
    "Group related reducers with CombineReducers or restructure with explicit Scope usage"]
  else if 3 ≤ count then [finding .warning location
    s!"Multiple implicit compositions: {count} reducers - risk of type inference issues"
    "Consider using CombineReducers for clarity and type safety"]
  else []

/-- What is said of the score of a builder. -/
def scoreFindings (score : Nat) (location : Location) : List Diagnostic :=
  if 20 ≤ score then [finding .error location
    (s!"Extremely complex @ReducerBuilder with complexity score {score}" ++
      " - definite type inference explosion")
    ("Simplify @ReducerBuilder: reduce conditions, extract complex logic to separate " ++
      "properties, or use explicit composition")]
  else if 15 ≤ score then [finding .warning location
    s!"Complex @ReducerBuilder with complexity score {score} - high risk of type inference issues"
    "Consider simplifying @ReducerBuilder or extracting some logic to separate computed properties"]
  else if 8 ≤ score then [finding .warning location
    s!"@ReducerBuilder complexity score {score} - may cause type inference slowdown"
    "Monitor build times; consider simplifying if compilation becomes slow"]
  else []

/-- What is said of the number of components of a builder. -/
def componentFindings (count : Nat) (location : Location) : List Diagnostic :=
  if 8 ≤ count then [finding .error location
    s!"@ReducerBuilder with {count} conditional reducers - exponential type inference complexity"
    ("Consider grouping related conditions or using explicit CombineReducers instead of " ++
      "@ReducerBuilder")]
  else if 5 ≤ count then [finding .warning location
    s!"@ReducerBuilder with {count} conditional reducers - risk of type inference issues"
    "Test compilation performance; consider refactoring if build becomes slow"]
  else []

/-- The verdict on the reducer body that begins with the first of the lines. -/
def checkBody (vocabulary : Vocabulary) (location : Location) (lines : List Line) :
    List Diagnostic :=
  let body := block lines
  nestingFindings (nesting vocabulary body).deepest location ++
    implicitFindings (implicitCount vocabulary body) location

/-- The verdict on the builder that begins with the first of the lines. A component counts twice as
much as a condition. -/
def checkBuilder (vocabulary : Vocabulary) (location : Location) (lines : List Line) :
    List Diagnostic :=
  let body := block lines
  let conditionals := conditionalCount vocabulary body
  let components := componentCount vocabulary body
  let score := conditionals + 2 * components
  scoreFindings score location ++ componentFindings components location

/-! ### Verdicts on measures -/

/-- The score of a builder whose block has the given measure. -/
def Measure.score (m : Measure) : Nat := m.conditional + 2 * m.components

/-- The verdict on a reducer body whose block has the given measure. -/
def bodyFindings (m : Measure) (location : Location) : List Diagnostic :=
  nestingFindings m.nesting location ++ implicitFindings m.implicit location

/-- The verdict on a builder whose block has the given measure. -/
def builderFindings (m : Measure) (location : Location) : List Diagnostic :=
  scoreFindings m.score location ++ componentFindings m.components location

@[simp] theorem measure_nil (vocabulary : Vocabulary) : measure vocabulary [] = {} := rfl

/-- All that counts for a reducer body is the measure of its block. -/
theorem checkBody_eq (vocabulary : Vocabulary) (location : Location) (lines : List Line) :
    checkBody vocabulary location lines =
      bodyFindings (measure vocabulary (block lines)) location := rfl

/-- All that counts for a builder is the measure of its block. -/
theorem checkBuilder_eq (vocabulary : Vocabulary) (location : Location) (lines : List Line) :
    checkBuilder vocabulary location lines =
      builderFindings (measure vocabulary (block lines)) location := rfl

end PackageLint.Source
