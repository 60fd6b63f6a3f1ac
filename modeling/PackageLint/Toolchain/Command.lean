import PackageLint.Run.Journal

/-!
# Running the toolchain

An invocation is noted in the journal before its outcome is known, so that the journal of a run
holds every command in order.

## Main results

* `calls_run`: a run of one command invokes that command and no other.
-/

namespace PackageLint.Invocation

/-- The command as one text. -/
def text (invocation : Invocation) : String := Text.joinWith " " invocation.argv

/-- Runs a command. -/
def run (toolchain : Toolchain) (invocation : Invocation) : Run CommandResult where
  events := [
    .log .debug s!"Running {invocation.text} in {invocation.directory.text}", .call invocation]
  result := (toolchain invocation).mapError .ofToolchain

/-- Runs a command of the package manager, and says if it failed. -/
def runPackage (toolchain : Toolchain) (invocation : Invocation) : Run CommandResult := do
  let result ← invocation.run toolchain
  let reason := result.error.getD ""
  if !result.success then
    Run.log .debug s!"{invocation.text} exited unsuccessfully: {reason}"
  return result

/-- The only command that a run of one command invokes. -/
@[simp] theorem calls_run (toolchain : Toolchain) (invocation : Invocation) :
    (invocation.run toolchain).calls = [invocation] := rfl

end PackageLint.Invocation
