import PackageLint.Text.Lines
import PackageLint.Toolchain.Command

/-!
# Comparing two builds

A package is built twice, with and without the validation of macros, and the first lines of both
outputs are kept.
-/

namespace PackageLint

/-- The first lines of the outputs of two builds. -/
structure BuildComparison where
  /-- The build as it is. -/
  normal : String
  /-- The build without the validation of macros. -/
  skipped : String
  deriving DecidableEq, Repr

namespace BuildComparison

/-- The first `limit` elements of a list; a negative limit counts from the end. -/
def firstOf {α : Type} (limit : Int) (items : List α) : List α :=
  if limit < 0 then items.take (items.length + limit).toNat else items.take limit.toNat

/-- The first lines of an output. -/
def head (limit : Int) (output : String) : String :=
  .ofList (Text.joinLines (firstOf limit (Text.linesOf output)))

/-- Builds the package in a directory twice. -/
def run (toolchain : Toolchain) (executable : String) (timeout : Option Binary64) (limit : Int)
    (directory : Path) : Run BuildComparison := do
  Run.log .info s!"Running comparative builds in {directory.text}"
  let normal ← (Invocation.build executable [] directory timeout).run toolchain
  let skipped ←
    (Invocation.build executable skipValidationArguments directory timeout).run toolchain
  return { normal := head limit normal.output, skipped := head limit skipped.output }

end BuildComparison

end PackageLint
