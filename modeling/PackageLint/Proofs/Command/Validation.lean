import Mathlib
import PackageLint.Command.Validation

/-!
# Checks are isolated from each other

A validation runs the checks that are asked for and have something to look at, in the order in which
they are given, and puts what they find one behind the other. A check that gives up adds one finding
in the place of its own. What a check adds depends on nothing but the package, so a validation with
other checks differs in what these checks add and in nothing else.

## Main definitions

* `isChosen`: the check is asked for and has something to look at;
* `segment`: what a check adds to the findings.

## Main results

* `result_runCheck` and `result_runChecks`: one check, and checks one behind the other;
* `run_isolates_checks`: a validation of a package whose configuration and rules can be loaded.
-/

namespace PackageLint

namespace Environment

/-- The context of checks is built as soon as the rules are loaded. -/
theorem result_context {env : Environment} {root : Path} {config : Config} {flagsBranches : Bool}
    {tables : RuleTables} (h : (env.rules config).result = .ok tables) :
    (env.context root config flagsBranches).result = .ok {
      root, config, tables, flagsBranches
      disk := env.disk
      toolchain := env.toolchain
      executable := env.executableFor config } := by
  rw [context, Run.result_bind_of_ok h]
  rfl

end Environment

namespace Validation

/-- The names that options ask for are in lower case. -/
theorem map_lowered_names (options : ValidationOptions) :
    options.names.map Text.lowered = options.names := by
  have hall : ∀ deep resolved flags macros sources : Bool,
      (ValidationOptions.mk deep resolved flags macros sources).names.map Text.lowered =
        (ValidationOptions.mk deep resolved flags macros sources).names := by decide +kernel
  exact hall _ _ _ _ _

/-- The check has something to look at, and its name in lower case is one of those that the options
ask for. -/
def isChosen (options : ValidationOptions) (context : PackageContext) (check : Check) : Bool :=
  check.supports context && options.names.contains (Text.lowered check.name)

/-- What a check adds to the findings: its own ones, or that it gave up. -/
def segment (context : PackageContext) (check : Check) : List Diagnostic :=
  match (check.run context).result with
  | .ok findings => findings
  | .error failure => [failureFinding check.name failure]

/-- What is added to a validation by checks. -/
def extend (context : PackageContext) (validation : Validation) (checks : List Check) :
    Validation :=
  { validation with
    checks := validation.checks ++ checks.map (·.name)
    findings := validation.findings ++ checks.flatMap (segment context) }

theorem result_runCheck (context : PackageContext) (check : Check) :
    (runCheck context check).result = .ok (segment context check) := by
  rw [runCheck, Run.result_bind_of_ok rfl, Run.result_bind_of_ok (Run.result_attempt _), segment]
  cases (check.run context).result <;> rfl

/-- Each check that has something to look at adds its segment, whatever the others do. -/
theorem result_runChecks (context : PackageContext) (validation : Validation)
    (checks : List Check) : (runChecks context validation checks).result =
      .ok (validation.extend context (checks.filter fun check => check.supports context)) := by
  induction checks generalizing validation with
  | nil => simp [runChecks, extend]
  | cons check rest ih =>
    rw [runChecks, List.filter_cons]
    split_ifs with hsupports
    · rw [Run.result_bind_of_ok (result_runCheck context check), ih]
      simp [extend]
    -- A check that has nothing to look at leaves a line in the log and nothing else.
    · rw [Run.result_bind_of_ok rfl, ih]

/-- Checks that take the place of all others are chosen by their names. -/
theorem result_select {env : Environment} {checks : List Check} (h : env.checks = some checks)
    (options : ValidationOptions) :
    (select env options.names).result =
      .ok (checks.filter fun check => options.names.contains (Text.lowered check.name)) := by
  rw [select, h]
  simp only [map_lowered_names]
  rfl

/-- A validation says what the chosen checks say. -/
theorem result_run (env : Environment) (path : Path) {config : Config} (options : ValidationOptions)
    (hmanifest : env.disk.has ((env.disk.resolve path).child manifestName) = true)
    (hconfig : env.config (env.disk.resolve path) = .ok config) {context : PackageContext}
    (hcontext : (env.context (env.disk.resolve path) config options.flagsBranches).result =
      .ok context) {checks : List Check} (hchecks : env.checks = some checks) :
    (run env path options).result =
      .ok (extend context { packagePath := (env.disk.resolve path).text }
        (checks.filter (isChosen options context))) := by
  rw [run, Run.ofExcept_bind_of_ok (Environment.packageRoot_of_has hmanifest),
    Run.ofExcept_bind_of_ok hconfig, Run.result_bind_of_ok hcontext,
    Run.result_bind_of_ok (result_select hchecks options),
    Run.result_bind_of_ok rfl, result_runChecks, List.filter_filter]
  rfl

/-- Checks are isolated from each other. On a package with a manifest whose configuration and rules
can be loaded, a validation comes to an end whatever the checks do; it lists the chosen checks in
the given order, and what it finds is what each of them adds, one behind the other. A check adds
what it finds, or, if it gives up, one error that names it. Checks in the midst of others change
nothing but their own part. -/
theorem run_isolates_checks {env : Environment} {path : Path} {config : Config}
    {tables : RuleTables} (options : ValidationOptions)
    (hmanifest : env.disk.has ((env.disk.resolve path).child manifestName) = true)
    (hconfig : env.config (env.disk.resolve path) = .ok config)
    (hrules : (env.rules config).result = .ok tables) :
    let validate (checks : List Check) :=
      (run { env with checks := some checks } path options).result
    ∃ context,
      (env.context (env.disk.resolve path) config options.flagsBranches).result = .ok context ∧
      (∀ checks, validate checks = .ok {
        packagePath := (env.disk.resolve path).text
        checks := (checks.filter (isChosen options context)).map (·.name)
        findings := (checks.filter (isChosen options context)).flatMap (segment context) }) ∧
      (∀ check found, (check.run context).result = .ok found → segment context check = found) ∧
      (∀ check failure, (check.run context).result = .error failure →
        ∃ finding, segment context check = [finding] ∧ finding.severity = .error ∧
          finding.category = .unknown ∧
          finding.message = s!"{check.name} check failed: {failure.message}") ∧
      ∀ front middle back, ∃ a b c, validate front = .ok a ∧ validate middle = .ok b ∧
        validate back = .ok c ∧
        validate (front ++ middle ++ back) = .ok {
          packagePath := (env.disk.resolve path).text
          checks := a.checks ++ b.checks ++ c.checks
          findings := a.findings ++ b.findings ++ c.findings } := by
  intro validate
  obtain ⟨context, hcontext⟩ : ∃ context,
      (env.context (env.disk.resolve path) config options.flagsBranches).result = .ok context :=
    ⟨_, Environment.result_context hrules⟩
  -- A run adds a segment for each check that is chosen, in an environment that the checks share.
  have hvalidate (checks : List Check) : validate checks =
      .ok (extend context { packagePath := (env.disk.resolve path).text }
        (checks.filter (isChosen options context))) :=
    result_run { env with checks := some checks } path options hmanifest hconfig hcontext rfl
  refine ⟨context, hcontext, fun checks => ?_, fun check found h => ?_, fun check failure h => ?_,
    fun front middle back => ⟨_, _, _, hvalidate front, hvalidate middle, hvalidate back, ?_⟩⟩
  · rw [hvalidate]
    rfl
  · rw [segment, h]
  · rw [segment, h]
    exact ⟨_, rfl, rfl, rfl, rfl⟩
  -- Choosing and adding segments both go through lists that are put together.
  · rw [hvalidate, List.filter_append, List.filter_append]
    simp [extend]

/-- A check whose outcome is known beforehand. -/
def fixedCheck (name : String) (supported : Bool) (outcome : Except Failure (List Diagnostic)) :
    Check where
  name := name
  title := name
  supports _ := supported
  run _ := .ofExcept outcome

/-- A check behind one that gives up is run all the same; one that has nothing to look at, or is not
asked for, is not. -/
theorem run_isolates_checks_behindFailure :
    let env : Environment := {
      disk := { root := .directory [("Package.swift", .file [])] }
      toolchain := fun _ => .error (.missingExecutable "swift")
      checks := some [
        fixedCheck "manifest" true (.error (.check "unexpected token")),
        fixedCheck "resolved" false (.ok []),
        fixedCheck "macros" true (.ok []),
        fixedCheck "TCA" true
          (.ok [{ severity := .info, category := .unknown, message := "still ran" }])] }
    ∃ validation,
      (run env { root := "/" } { checksResolved := true, checksSources := true }).result =
        .ok validation ∧
      validation.checks = ["manifest", "TCA"] ∧
      validation.findings.map (·.message) =
        ["manifest check failed: unexpected token", "still ran"] := by
  intro env
  have hmanifest : env.disk.has ((env.disk.resolve { root := "/" }).child manifestName) = true := by
    decide +kernel
  obtain ⟨context, -, hvalidate, -⟩ :=
    run_isolates_checks { checksResolved := true, checksSources := true } hmanifest rfl rfl
  exact ⟨_, hvalidate (env.checks.getD []), rfl, rfl⟩

end Validation

end PackageLint
