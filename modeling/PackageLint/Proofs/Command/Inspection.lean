import Mathlib
import PackageLint.Command.Inspection
import PackageLint.Proofs.Output.Success

/-!
# The status of an inspection is that of the dump

An inspection invokes two commands, one behind the other, and goes on when either of them cannot be
started or fails. Errors come from the dump alone: from a command that failed, or from an output
that is not the document of a package. What comes from showing the dependencies is a warning at
most, so it changes neither the status nor what the dump has brought.

## Main definitions

* `Inspection.invocation`: the commands of an inspection;
* `Inspection.IsAnswer`: what a toolchain may say without stopping the inspection;
* `Inspection.DumpFails`: the ways in which a dump fails.

## Main results

* `Inspection.hasErrors_structureFindings_iff`: when an output of a dump brings an error;
* `Inspection.hasErrors_iff_of_dumpStep`: when the step brings one;
* `Inspection.run_eq_ofSteps`: an inspection is made of its two steps;
* `Inspection.status_reflects_dump`: the status, and what the dependencies do to it.
-/

namespace PackageLint

namespace Invocation

theorem result_run (toolchain : Toolchain) (invocation : Invocation) :
    (invocation.run toolchain).result = (toolchain invocation).mapError .ofToolchain := rfl

/-- A command that failed is told of in the log and handed on like any other. -/
theorem result_runPackage (toolchain : Toolchain) (invocation : Invocation) :
    (invocation.runPackage toolchain).result = (toolchain invocation).mapError .ofToolchain := by
  rw [runPackage, ← result_run]
  cases h : (invocation.run toolchain).result with
  | error failure => exact Run.bind_of_error h _
  | ok result =>
    rw [Run.result_bind_of_ok h]
    cases result.success <;> rfl

theorem calls_runPackage (toolchain : Toolchain) (invocation : Invocation) :
    (invocation.runPackage toolchain).calls = [invocation] := by
  rw [runPackage]
  cases h : (invocation.run toolchain).result with
  | error failure => rw [Run.calls_bind_of_error h, calls_run]
  | ok result =>
    rw [Run.calls_bind_of_ok h, calls_run]
    cases result.success <;> rfl

end Invocation

namespace Inspection

/-- A command of an inspection. -/
def invocation (env : Environment) (config : Config) (root : Path) (command : String) :
    Invocation :=
  .package (env.executableFor config) [command] root (some config.timeout)

/-- A toolchain answers with the outcome of a command or refuses to start it, and what the command
wrote is a text. -/
def IsAnswer (answer : Except ToolchainFailure CommandResult) : Prop :=
  ∀ failure, answer ≠ .error (.undecodable failure)

/-- The dump cannot be started, it fails, or what it writes is not a JSON object. -/
def DumpFails (answer : Except ToolchainFailure CommandResult) : Prop :=
  (∃ failure, answer = .error failure) ∨
  ∃ result, answer = .ok result ∧ (result.success = false ∨
    ¬ ∃ entries, Json.read result.output.toList = .ok (.table entries))

theorem dumpFails_ok_iff {result : CommandResult} : DumpFails (.ok result) ↔
    result.success = false ∨
      ¬ ∃ entries, Json.read result.output.toList = .ok (.table entries) := by
  simp [DumpFails]

/-! ### The dump -/

/-- An output that is read brings an error exactly if it is not an object: what is wrong with the
structure of a package is a warning. -/
theorem hasErrors_structureFindings_iff {text : String} {analysis : Output.Analysis}
    (h : Output.PackageDump.read text none = .ok analysis) :
    Diagnostic.hasErrors (Output.structureFindings analysis) = true ↔
      ¬ ∃ entries, Json.read text.toList = .ok (.table entries) := by
  rw [Output.PackageDump.read] at h
  split at h
  case h_1 failure hread =>
    cases h
    exact iff_of_true rfl (by simp [hread])
  case h_2 entries hread =>
    obtain ⟨dump, -, rfl⟩ := map_eq_ok_iff.1 h
    refine iff_of_false ?_ (by simp [hread])
    -- No target, too many of them, or neither: the severities are there to be read.
    show ¬ Diagnostic.hasErrors (dump.issues.filterMap Output.structureFinding?) = true
    rw [Output.PackageDump.issues]
    split_ifs <;> exact Bool.false_ne_true
  case h_3 v hv hread =>
    cases h
    refine iff_of_true rfl ?_
    rintro ⟨entries, hentries⟩
    exact hv entries (Except.ok.inj (hread.symm.trans hentries))

/-- The step of the dump brings an error exactly if the dump fails. -/
theorem hasErrors_iff_of_dumpStep {executable : String}
    {answer : Except ToolchainFailure CommandResult} {dump : Contribution}
    (h : dumpStep executable answer.toOption = .ok dump) :
    Diagnostic.hasErrors dump.findings = true ↔ DumpFails answer := by
  cases answer with
  | error failure =>
    cases h
    exact iff_of_true rfl (.inl ⟨failure, rfl⟩)
  | ok result =>
    rw [dumpFails_ok_iff]
    unfold dumpStep at h
    -- A command that did not succeed is an error itself; else its output decides.
    cases hsuccess : result.success with
    | false =>
      simp only [Except.toOption, Option.filter, hsuccess] at h
      cases h
      exact iff_of_true rfl (.inl rfl)
    | true =>
      simp only [Except.toOption, Option.filter, hsuccess] at h
      obtain ⟨analysis, hread, hdump⟩ := bind_eq_ok_iff.1 h
      cases hdump
      simp [hasErrors_structureFindings_iff hread]

/-! ### Runs -/

theorem result_runPhase {env : Environment} {config : Config} {root : Path} {command : String}
    (h : IsAnswer (env.toolchain (invocation env config root command))) :
    (runPhase env config root command).result =
      .ok (env.toolchain (invocation env config root command)).toOption := by
  rw [runPhase, Run.result_bind_of_ok (Run.result_attempt _), Invocation.result_runPackage]
  rw [invocation] at h
  unfold invocation
  cases hanswer : env.toolchain
      (.package (env.executableFor config) [command] root (some config.timeout)) with
  | ok result => rfl
  -- A refusal leaves a line in the log and no outcome; only what is no text stops the inspection.
  | error failure =>
    cases failure with
    | undecodable failure => exact absurd hanswer (h failure)
    | missingExecutable name => rfl
    | refused reason => rfl

/-- A step invokes its command, however the command ends. -/
theorem calls_runPhase (env : Environment) (config : Config) (root : Path) (command : String) :
    (runPhase env config root command).calls = [invocation env config root command] := by
  rw [runPhase, Run.calls_bind_of_ok (Run.result_attempt _)]
  have hattempt : (((invocation env config root command).runPackage env.toolchain).attempt).calls =
      [invocation env config root command] := Invocation.calls_runPackage _ _
  refine (congrArg (· ++ _) hattempt).trans ?_
  split <;> rfl

/-- An inspection of a package whose configuration can be loaded invokes two commands, and it is
made of the two steps. -/
theorem run_eq_ofSteps (env : Environment) {path root : Path} {config : Config}
    {dump : Contribution} (hangDetection : Bool) (hroot : env.packageRoot path = .ok root)
    (hconfig : env.config root = .ok config)
    (hdump : IsAnswer (env.toolchain (invocation env config root "dump-package")))
    (hshown : IsAnswer (env.toolchain (invocation env config root "show-dependencies")))
    (hstep : dumpStep config.executable
      (env.toolchain (invocation env config root "dump-package")).toOption = .ok dump) :
    (run env path hangDetection).calls =
      [invocation env config root "dump-package", invocation env config root "show-dependencies"] ∧
    (run env path hangDetection).result = .ok (ofSteps root hangDetection dump (dependencyStep
      (env.toolchain (invocation env config root "show-dependencies")).toOption)) := by
  -- Reading the dump calls nothing, so the calls are those of the two phases.
  have hread : (Run.ofExcept ((dumpStep config.executable
      (env.toolchain (invocation env config root "dump-package")).toOption).mapError
        Failure.shape)).result = .ok dump := by
    rw [hstep]
    rfl
  rw [run, Run.ofExcept_bind_of_ok hroot, Run.ofExcept_bind_of_ok hconfig]
  constructor
  · rw [Run.calls_bind_of_ok (Run.result_log _ _), Run.calls_bind_of_ok (result_runPhase hdump),
      Run.calls_bind_of_ok hread, Run.calls_bind_of_ok (result_runPhase hshown),
      Run.calls_bind_of_ok (Run.result_log _ _), calls_runPhase, calls_runPhase]
    simp
  · rw [Run.result_bind_of_ok (Run.result_log _ _), Run.result_bind_of_ok (result_runPhase hdump),
      Run.result_bind_of_ok hread, Run.result_bind_of_ok (result_runPhase hshown),
      Run.result_bind_of_ok (Run.result_log _ _), Run.result_pure]

/-- Without a configuration nothing is invoked. -/
theorem run_of_config_eq_error {env : Environment} {path root : Path} {failure : Failure}
    (hangDetection : Bool) (hroot : env.packageRoot path = .ok root)
    (hconfig : env.config root = .error failure) :
    (run env path hangDetection).calls = [] ∧
      (run env path hangDetection).result = .error failure := by
  rw [run, Run.ofExcept_bind_of_ok hroot, Run.ofExcept_bind_of_error hconfig]
  exact ⟨rfl, rfl⟩

/-- The step of the dump comes to an end if the output can be read. -/
theorem exists_dumpStep {executable : String} {answer : Except ToolchainFailure CommandResult}
    (h : ∀ result, answer = .ok result → result.success = true →
      ∃ analysis, Output.PackageDump.read result.output none = .ok analysis) :
    ∃ dump, dumpStep executable answer.toOption = .ok dump := by
  unfold dumpStep
  cases answer with
  | error failure => exact ⟨_, rfl⟩
  | ok result =>
    cases hsuccess : result.success with
    | false => simp [Except.toOption, Option.filter, hsuccess]
    | true =>
      obtain ⟨analysis, hread⟩ := h result rfl hsuccess
      simp [Except.toOption, Option.filter, hsuccess, ofDump, hread, bind, Except.bind, pure,
        Except.pure]

theorem failed_ne_succeeded : failed ≠ succeeded := by decide

/-- The status tells whether the dump failed, whatever comes of the dependencies. -/
theorem status_ofSteps_iff {executable : String} {answer : Except ToolchainFailure CommandResult}
    {dump : Contribution} (h : dumpStep executable answer.toOption = .ok dump) (root : Path)
    (hangDetection : Bool) (outcome : Option CommandResult) :
    ((ofSteps root hangDetection dump (dependencyStep outcome)).status = failed ↔
      DumpFails answer) ∧
    ((ofSteps root hangDetection dump (dependencyStep outcome)).status = succeeded ↔
      ¬ DumpFails answer) := by
  rw [status_ofSteps_dependencyStep, ← hasErrors_iff_of_dumpStep h]
  split_ifs with herrors
  · simp [herrors, failed_ne_succeeded]
  · simp [herrors, failed_ne_succeeded.symm]

/-- Showing the dependencies brings at most one warning. -/
theorem findings_dependencyStep (outcome : Option CommandResult) :
    (dependencyStep outcome).findings.length ≤ 1 ∧
      ∀ finding ∈ (dependencyStep outcome).findings, finding.severity = .warning := by
  unfold dependencyStep
  split
  · simp
  · simp [dependencyFailure]

/-- The status of an inspection is that of the dump. A package with a manifest is inspected unless
its configuration cannot be loaded. If each of the two commands has an outcome or cannot be started,
and the output of the dump can be read, both are invoked, one behind the other, and there is a
result. It is a failure exactly if the dump fails. The status, the number of targets and what the
dump has brought are the same for all toolchains that give the same answer to the dump; showing the
dependencies adds one warning at most, behind everything else. -/
theorem status_reflects_dump {env : Environment} {path : Path} (hangDetection : Bool)
    (hmanifest : env.disk.has ((env.disk.resolve path).child manifestName) = true) :
    (∀ failure, env.config (env.disk.resolve path) = .error failure →
      (run env path hangDetection).calls = [] ∧
        (run env path hangDetection).result = .error failure) ∧
    ∀ config, env.config (env.disk.resolve path) = .ok config →
      let dumpCommand := invocation env config (env.disk.resolve path) "dump-package"
      let showCommand := invocation env config (env.disk.resolve path) "show-dependencies"
      ∀ answer, IsAnswer answer →
        (∀ result, answer = .ok result → result.success = true →
          ∃ analysis, Output.PackageDump.read result.output none = .ok analysis) →
        ∃ dump, dumpStep config.executable answer.toOption = .ok dump ∧
          ∀ toolchain : Toolchain, toolchain dumpCommand = answer →
            IsAnswer (toolchain showCommand) →
            let inspect := run { env with toolchain } path hangDetection
            inspect.calls = [dumpCommand, showCommand] ∧
            ∃ inspection, inspect.result = .ok inspection ∧
              (inspection.status = failed ↔ DumpFails answer) ∧
              (inspection.status = succeeded ↔ ¬ DumpFails answer) ∧
              inspection.targetCount = dump.targetCount ∧
              ∃ trailing, inspection.findings = dump.findings ++ trailing ∧
                trailing.length ≤ 1 ∧ ∀ finding ∈ trailing, finding.severity = .warning := by
  have hroot : env.packageRoot path = .ok (env.disk.resolve path) :=
    Environment.packageRoot_of_has hmanifest
  refine ⟨fun failure hconfig => run_of_config_eq_error hangDetection hroot hconfig,
    fun config hconfig => ?_⟩
  intro dumpCommand showCommand answer hanswer hreads
  obtain ⟨dump, hstep⟩ := exists_dumpStep hreads
  refine ⟨dump, hstep, fun toolchain hdump hshown => ?_⟩
  subst hdump
  -- Neither the package nor its configuration depends on the toolchain.
  obtain ⟨hcalls, hresult⟩ :=
    run_eq_ofSteps { env with toolchain } hangDetection hroot hconfig hanswer hshown hstep
  refine ⟨hcalls, _, hresult, ?_⟩
  obtain ⟨hfailed, hsucceeded⟩ := status_ofSteps_iff hstep (env.disk.resolve path) hangDetection
    (toolchain showCommand).toOption
  exact ⟨hfailed, hsucceeded, rfl, _, rfl, findings_dependencyStep _⟩

/-- A toolchain that dumps a package without targets and starts no other command. -/
def dumpOnly : Toolchain := fun invocation =>
  if "dump-package" ∈ invocation.argv then .ok { output := "\x7b\x7d" }
  else .error (.refused "no network")

theorem isAnswer_dumpOnly (invocation : Invocation) : IsAnswer (dumpOnly invocation) := by
  intro failure
  rw [dumpOnly]
  split_ifs <;> simp

theorem read_emptyDump : Json.read "\x7b\x7d".toList = .ok (.table []) := by cbv

/-- Where the dependencies cannot be shown, the status is that of the dump all the same. -/
theorem status_reflects_dump_dumpOnly :
    let env : Environment := {
      disk := { root := .directory [("Package.swift", .file [])] }
      toolchain := dumpOnly }
    ∃ inspection, (run env { root := "/" } false).result = .ok inspection ∧
      inspection.status = succeeded := by
  intro env
  have hmanifest : env.disk.has ((env.disk.resolve { root := "/" }).child manifestName) = true := by
    decide +kernel
  obtain ⟨config, hconfig⟩ : ∃ config, env.config (env.disk.resolve { root := "/" }) = .ok config :=
    ⟨_, rfl⟩
  have hread : Output.PackageDump.read "\x7b\x7d" none =
      .ok (Output.PackageDump.analysis {} none) := by
    rw [Output.PackageDump.read, read_emptyDump]
    rfl
  have hdump : dumpOnly (invocation env config (env.disk.resolve { root := "/" }) "dump-package") =
      .ok { output := "\x7b\x7d" } := by simp [dumpOnly, invocation, Invocation.package]
  obtain ⟨-, hinspect⟩ := status_reflects_dump false hmanifest
  obtain ⟨dump, -, hinspect⟩ := hinspect config hconfig _ (isAnswer_dumpOnly _)
    fun result hresult _ => by
      cases hdump.symm.trans hresult
      exact ⟨_, hread⟩
  obtain ⟨-, inspection, hrun, -, hstatus, -⟩ := hinspect dumpOnly rfl (isAnswer_dumpOnly _)
  refine ⟨inspection, hrun, hstatus.2 ?_⟩
  rw [hdump, dumpFails_ok_iff]
  rintro (hsuccess | hjson)
  · cases hsuccess
  · exact hjson ⟨_, read_emptyDump⟩

end Inspection

end PackageLint
