import PackageLint.Checks.Registry

/-!
# The surroundings of a command

What a command has besides its arguments: the files, the toolchain, the languages that files and
patterns are written in, the configuration that it is told to use, and the checks that are at hand.
Nothing is known of the languages: how documents are read and what patterns mean is given from
outside, and the readers of this library only stand in where nobody says otherwise.

## Main results

* `packageRoot_of_has` and `packageRoot_of_not_has`: a directory is a package if it has a manifest;
* `result_rules_of_none`: the standard rules apply where no others are named.
-/

namespace PackageLint

/-- The languages that configurations and rules are written in. -/
structure Languages where
  /-- The document that a text holds. -/
  readDocument : List Char → Except Yaml.Failure Value := Yaml.read
  /-- What is wrong with a pattern. -/
  patternFault? : String → Option Pattern.Fault := Pattern.fault?
  /-- The pattern is found in the text. -/
  finds : String → List Char → Bool := Pattern.occurs

/-- The surroundings of a command. -/
structure Environment where
  /-- The files. -/
  disk : Disk
  /-- The languages of configurations and rules. -/
  languages : Languages := {}
  /-- The toolchain. -/
  toolchain : Toolchain
  /-- An executable that goes before the one of the configuration. -/
  executable : Option String := none
  /-- An executable that is run whatever the configuration says. -/
  fixedExecutable : Option String := none
  /-- The place of the configuration, if it is not the package. -/
  configuration : Option Path := none
  /-- The plugins that bring checks. -/
  plugins : List Checks.Plugin := []
  /-- Checks that take the place of all others. -/
  checks : Option (List Check) := none

namespace Environment

/-- The configuration for a directory. -/
def config (env : Environment) (directory : Path) : Except Failure Config :=
  Config.loadWith env.languages.readDocument env.disk env.executable
    (env.configuration.getD directory)

/-- The rules that a configuration names. -/
def rules (env : Environment) (config : Config) : Run RuleTables := do
  let tables ← RuleTables.loadWith env.languages.readDocument env.languages.patternFault? env.disk
    config.rules
  return tables.withMeaning env.languages.finds

/-- The directory of a package: there has to be a manifest. -/
def packageRoot (env : Environment) (path : Path) : Except Failure Path :=
  let root := env.disk.resolve path
  if env.disk.has (root.child manifestName) then .ok root else .error (.noPackage root)

/-- The executable that is run. -/
def executableFor (env : Environment) (config : Config) : String :=
  env.fixedExecutable.getD config.executable

/-- What checks may look at. -/
def context (env : Environment) (root : Path) (config : Config) (flagsBranches : Bool) :
    Run PackageContext := do
  let tables ← env.rules config
  return {
    root, config, tables, flagsBranches
    disk := env.disk
    toolchain := env.toolchain
    executable := env.executableFor config }

/-- A directory with a manifest is a package. -/
theorem packageRoot_of_has {env : Environment} {path : Path}
    (h : env.disk.has ((env.disk.resolve path).child manifestName) = true) :
    env.packageRoot path = .ok (env.disk.resolve path) := by
  simp [packageRoot, h]

/-- A package without a manifest is none. -/
theorem packageRoot_of_not_has {env : Environment} {path : Path}
    (h : env.disk.has ((env.disk.resolve path).child manifestName) = false) :
    env.packageRoot path = .error (.noPackage (env.disk.resolve path)) := by
  simp [packageRoot, h]

/-- Where no rules are named the standard ones apply. -/
theorem result_rules_of_none {env : Environment} {config : Config} (h : config.rules = none) :
    (env.rules config).result = .ok (RuleTables.standard.withMeaning env.languages.finds) := by
  rw [rules, h]
  rfl

end Environment

end PackageLint
