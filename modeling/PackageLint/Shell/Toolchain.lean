import PackageLint.Shell.Session
import PackageLint.Toolchain.Basic

/-!
# Toolchains made of scripts

The shell stands for a toolchain: its first argument names a script in the directory of the
invocation, and the other arguments are those of the script. There is no other executable. This is
the one place where the outer layer of the program takes its processes from; the commands take any
toolchain.

## Main results

* `toolchain_of_not_mem_names`: nothing but the shell can be started.
-/

namespace PackageLint.Shell

/-- The names of the shell. -/
def names : List String := ["sh", "/bin/sh", "/usr/bin/sh"]

/-- A text of a command, with line feeds for all line ends. -/
def decode (bytes : List UInt8) : Except ToolchainFailure String :=
  match Text.decodeUtf8 bytes with
  | .ok cs => .ok (.ofList (Text.normalizeNewlines cs))
  | .error failure => .error (.undecodable failure)

/-- A text that is there if it is not blank. -/
def said? (s : String) : Option String :=
  let s := Text.trimmed s
  if s.isEmpty then none else some s

/-- What a script did whose time was over: what it has written so far counts as its output. -/
def stoppedResult (limit : Binary64) (bytes : List UInt8) : CommandResult where
  success := false
  output := .ofList (Text.decodeLenient bytes)
  error := if limit.isNonzero then s!"timed out after {limit.general 6}s" else "timed out"

namespace Session

/-- What a script did. -/
def result (session : Session) (mergesErrors : Bool) : Except ToolchainFailure CommandResult := do
  let bytes := if mergesErrors then session.everything else session.writtenTo .output
  match session.ending, session.timeout with
  | some .outOfTime, some limit => return stoppedResult limit bytes
  | ending, _ =>
    let output ← decode bytes
    let errors ← decode (if mergesErrors then [] else session.writtenTo .errors)
    return {
      success := session.values.status = 0 && ending ≠ some .killed
      output
      error := said? errors }

end Session

/-- The session that runs the script of a name. -/
def startSession (disk : Disk) (invocation : Invocation) (script : String)
    (arguments : List String) : Session where
  disk
  directory := disk.resolve invocation.directory
  values := { script, arguments }
  timeout := invocation.timeout

/-- Runs the script of a name. -/
def runScript (session : Session) (script : String) : Session :=
  match session.disk.readBytes (session.path script) with
  | .error _ =>
    session.accept [] (.failure 2 s!"sh: 0: cannot open {script}: No such file")
  | .ok bytes =>
    match Script.read (Text.decodeLenient bytes) with
    | .ok read => session.run read
    | .error flaw => session.accept [] (.failure 2 s!"{script}: 1: Syntax error: {flaw.message}")

/-- The toolchain of the scripts among the files. -/
def toolchain (disk : Disk) : Toolchain := fun invocation =>
  match invocation.argv with
  | executable :: script :: arguments =>
    if names.contains executable && disk.isDirectory invocation.directory then
      (runScript (startSession disk invocation script arguments) script).result
        invocation.mergesErrors
    else .error (.missingExecutable executable)
  | argv => .error (.missingExecutable (argv.headD ""))

/-- Nothing but the shell can be started. -/
theorem toolchain_of_not_mem_names {executable script : String} (h : executable ∉ names)
    (disk : Disk) (arguments : List String) (directory : Path) :
    toolchain disk { argv := executable :: script :: arguments, directory } =
      .error (.missingExecutable executable) := by
  simp [toolchain, h]

end PackageLint.Shell
