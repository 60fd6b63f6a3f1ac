import PackageLint.File.Tree
import PackageLint.Number.Binary64

/-!
# The toolchain

The commands of the package manager that a run may ask for. A toolchain answers an invocation with
the outcome of the command, or says why it cannot be started.
-/

namespace PackageLint

/-- A command and how it is run. -/
structure Invocation where
  /-- The executable and its arguments. -/
  argv : List String
  /-- The directory that it is run in. -/
  directory : Path
  /-- The number of seconds after which it is stopped. -/
  timeout : Option Binary64 := none
  /-- What it says on its second channel is put among its output. -/
  mergesErrors : Bool := false
  deriving DecidableEq, Repr

/-- What a command did. -/
structure CommandResult where
  /-- The command came to a good end. -/
  success : Bool := true
  /-- What it wrote. -/
  output : String := ""
  /-- What it said on its second channel, or why it was stopped. -/
  error : Option String := none
  /-- How many seconds it took. -/
  duration : Binary64 := .zero
  deriving DecidableEq, Repr

/-- Why a command cannot be started. -/
inductive ToolchainFailure
  /-- There is no such executable. -/
  | missingExecutable (name : String)
  /-- Another reason, in words. -/
  | refused (reason : String)
  /-- What the command wrote is no text. -/
  | undecodable (failure : Text.Utf8Failure)
  deriving DecidableEq, Repr

/-- The wording of a failure. -/
def ToolchainFailure.message : ToolchainFailure → String
  | missingExecutable name => s!"Toolchain executable not found: {name}"
  | refused reason => reason
  | undecodable failure => decodingMessage failure

/-- A toolchain is known by its answers. -/
abbrev Toolchain := Invocation → Except ToolchainFailure CommandResult

/-- The arguments that switch off the validation of macros. -/
def skipValidationArguments : List String := ["-Xswiftc", "-skipMacroValidation"]

namespace Invocation

/-- A command of the package manager. -/
def package (executable : String) (arguments : List String) (directory : Path)
    (timeout : Option Binary64) : Invocation :=
  { argv := executable :: "package" :: arguments, directory, timeout }

/-- A build, whose two channels are merged. -/
def build (executable : String) (arguments : List String) (directory : Path)
    (timeout : Option Binary64) : Invocation :=
  { argv := executable :: "build" :: arguments, directory, timeout, mergesErrors := true }

end Invocation

end PackageLint
