import PackageLint.CommandLine.Outcome
import PackageLint.Shell.Toolchain

/-!
# The program

The arguments are carried out in the surroundings of the process. The files that a command may look
at are named on the standard input, one path on a line; for the command that reads an output the
standard input is that output. The toolchain is made of the scripts among the files.
-/

open PackageLint

/-- The variable of the process that names the executable of the toolchain. -/
def toolchainVariable : String := "SPMSIFT_TOOLCHAIN"

/-- The files with one more, if it can be read. -/
def readFile (disk : Disk) (name : String) : IO Disk := do
  try
    let bytes ← IO.FS.readBinFile name
    return disk.put (.ofText name) (.file bytes.toList)
  catch _ => return disk

/-- The files with the given names below a directory. -/
def readFiles (directory : Path) (names : List String) : IO Disk :=
  let disk : Disk := { workingDirectory := directory }
  names.foldlM readFile (disk.put directory (.directory []))

/-- Carries out the arguments. -/
def main (arguments : List String) : IO UInt32 := do
  let input ← (← IO.getStdin).readToEnd
  let directory := Path.ofText ((← IO.getEnv "PWD").getD "/")
  let disk ← readFiles directory (CommandLine.filesNamed arguments input)
  let executable ← IO.getEnv toolchainVariable
  let env : Environment := { disk, executable, toolchain := Shell.toolchain disk }
  let (verbose, run) := CommandLine.run env arguments input
  match run.result with
  | .ok outcome =>
    IO.print outcome.output
    IO.eprint (CommandLine.sideText verbose run.events outcome)
    return outcome.code.toUInt32
  | .error failure =>
    IO.eprint (CommandLine.logText verbose run.events)
    IO.eprintln failure.message
    return 1
