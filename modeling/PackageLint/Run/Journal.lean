import PackageLint.Diagnostic.Report
import PackageLint.File.Tree
import PackageLint.Pattern.Reader
import PackageLint.Toolchain.Basic
import PackageLint.Yaml.Reader

/-!
# Runs and their journals

A run of a command ends with a result or with a failure, and leaves a journal: what was logged,
which commands of the toolchain were invoked and which plugins were loaded, in order. Running one
step behind another appends the journals and stops at the first failure.

## Main results

* `Run.bind_of_error`: nothing follows a failure;
* `Run.bind_of_ok`: a result is handed on, and the journals are appended;
* `Run.ofExcept_bind_of_ok`, `Run.ofExcept_bind_of_error`: steps without a journal;
* `Run.result_bind`: the results alone, without the journals;
* `Run.calls_bind_of_ok`, `Run.calls_bind_of_error`: the commands that were invoked, in order;
* `Run.result_attempt`: an attempt never fails.
-/

namespace PackageLint

/-- How important a line of the log is. -/
inductive LogRank
  /-- For a developer. -/
  | debug
  /-- Progress. -/
  | info
  /-- Something was passed over. -/
  | warning
  /-- Something failed. -/
  | error
  deriving DecidableEq, Repr

/-- The name of a rank in the log. -/
def LogRank.name : LogRank → String
  | debug => "DEBUG"
  | info => "INFO"
  | warning => "WARNING"
  | error => "ERROR"

/-- An entry of a journal. -/
inductive Event
  /-- A line of the log. -/
  | log (rank : LogRank) (text : String)
  /-- A command of the toolchain. -/
  | call (invocation : Invocation)
  /-- The loading of the plugin of a name. -/
  | load (name : String)
  deriving DecidableEq, Repr

/-- What is wrong with a configuration file or a file of rules. -/
inductive ConfigFailure
  /-- The configuration file cannot be read. -/
  | unreadable (path : Path) (fault : FileFault)
  /-- The configuration file is no document. -/
  | malformed (path : Path) (flaw : Yaml.Flaw)
  /-- The document is no table. -/
  | noTable (path : Path)
  /-- The file of rules cannot be read. -/
  | unreadableRules (path : Path) (fault : FileFault)
  /-- The file of rules is no document. -/
  | malformedRules (path : Path) (flaw : Yaml.Flaw)
  /-- The document of rules is no table. -/
  | noRuleTable (path : Path)
  deriving DecidableEq, Repr

/-- The wording of a failure. -/
def ConfigFailure.message : ConfigFailure → String
  | unreadable path fault => s!"Failed to read {path.name}: {fault.message path}"
  | malformed path flaw => s!"Failed to parse {path.name}: {flaw.message}"
  | noTable path => s!"{path.name} must contain a mapping at the root"
  | unreadableRules path fault => s!"Cannot read rule file {path.text}: {fault.message path}"
  | malformedRules path flaw => s!"Failed to parse rule file {path.name}: {flaw.message}"
  | noRuleTable path => s!"Rule file {path.name} must contain a mapping at the root"

/-- Why a command failed. -/
inductive Failure
  /-- There is no package in a directory. -/
  | noPackage (directory : Path)
  /-- There is nothing at a path. -/
  | noPath (path : Path)
  /-- There is no directory at a path. -/
  | noDirectory (path : Path)
  /-- A path leads neither to a source file nor to a directory. -/
  | notSource (path : Path)
  /-- There are no source files. -/
  | noSources
  /-- There is nothing to read. -/
  | noInput
  /-- A configuration is wrong. -/
  | config (failure : ConfigFailure)
  /-- A file that has to be a text is none. -/
  | undecodable (failure : Text.Utf8Failure)
  /-- A value of a configuration has no meaning. -/
  | value (failure : Yaml.Failure)
  /-- A number is too large for a number of seconds. -/
  | tooLarge
  /-- A pattern is well-formed, but there is no way to search for it. -/
  | pattern (fault : Pattern.Fault)
  /-- A document has the wrong shape. -/
  | shape (fault : ShapeFault)
  /-- Checks were asked for that nobody knows. -/
  | unknownChecks (names : List String)
  /-- What was made under a name is no check. -/
  | noCheck (name : String)
  /-- A check gave up, for a reason in words. -/
  | check (reason : String)
  /-- The toolchain cannot be started. -/
  | toolchain (failure : ToolchainFailure)
  deriving DecidableEq, Repr

/-- The wording of a fault of a shape. -/
def ShapeFault.message : ShapeFault → String
  | notIterable => "a value has no elements"
  | noFields => "a value has no fields"
  | notIndexable => "a value has no first element"
  | missingKey => "a table has no first element"
  | noElement => "an empty list has no first element"

/-- The wording of a failure. -/
def Failure.message : Failure → String
  | noPackage directory => s!"Package.swift not found at {directory.text}"
  | noPath path => s!"Path '{path.text}' does not exist"
  | noDirectory path => s!"Package directory '{path.text}' does not exist"
  | notSource path => s!"'{path.text}' is not a Swift file or directory"
  | noSources => "No Swift files found"
  | noInput => "No input received"
  | config failure => failure.message
  | undecodable failure => decodingMessage failure
  | value failure => failure.message
  | tooLarge => "int too large to convert to float"
  | pattern fault => fault.message
  | shape fault => fault.message
  | unknownChecks names => "Unknown analyzers requested: " ++ Text.joinWith ", " names
  | noCheck name => s!"Analyzer factory for '{name}' did not return an Analyzer instance"
  | check reason => reason
  | toolchain failure => failure.message

/-- The failure of a command that gave no result. -/
def Failure.ofToolchain : ToolchainFailure → Failure
  | .undecodable failure => undecodable failure
  | failure => toolchain failure

/-- A run: its journal, and its result or its failure. -/
structure Run (α : Type) where
  /-- What happened, in order. -/
  events : List Event
  /-- How it ended. -/
  result : Except Failure α

namespace Run

variable {α β : Type}

/-- A run in which nothing happens. -/
protected def pure (a : α) : Run α := ⟨[], .ok a⟩

/-- One run behind another; nothing follows a failure. -/
protected def bind (run : Run α) (next : α → Run β) : Run β :=
  match run.result with
  | .error failure => ⟨run.events, .error failure⟩
  | .ok a => ⟨run.events ++ (next a).events, (next a).result⟩

instance : Monad Run where
  pure := Run.pure
  bind := Run.bind

/-- A run that fails. -/
def fail (failure : Failure) : Run α := ⟨[], .error failure⟩

/-- A run that ends in a given way. -/
def ofExcept (result : Except Failure α) : Run α := ⟨[], result⟩

/-- A line of the log. -/
def log (rank : LogRank) (text : String) : Run Unit := ⟨[.log rank text], .ok ()⟩

/-- Lines of the log. -/
def logAll (lines : List (LogRank × String)) : Run Unit :=
  ⟨lines.map fun line => .log line.1 line.2, .ok ()⟩

/-- The loading of the plugin of a name. -/
def load (name : String) : Run Unit := ⟨[.load name], .ok ()⟩

/-- A run whose failure is a result. -/
def attempt (run : Run α) : Run (Except Failure α) := ⟨run.events, .ok run.result⟩

/-- The commands that were invoked. -/
def calls (run : Run α) : List Invocation :=
  run.events.filterMap fun event =>
    match event with
    | .call invocation => some invocation
    | .log _ _ | .load _ => none

@[simp] theorem events_pure (a : α) : (pure a : Run α).events = [] := rfl

@[simp] theorem result_pure (a : α) : (pure a : Run α).result = .ok a := rfl

@[simp] theorem result_fail (failure : Failure) :
    (fail failure : Run α).result = .error failure := rfl

@[simp] theorem result_ofExcept (result : Except Failure α) : (ofExcept result).result = result :=
  rfl

@[simp] theorem result_log (rank : LogRank) (text : String) : (log rank text).result = .ok () := rfl

@[simp] theorem calls_pure (a : α) : (pure a : Run α).calls = [] := rfl

@[simp] theorem calls_ofExcept (result : Except Failure α) : (ofExcept result).calls = [] := rfl

@[simp] theorem calls_log (rank : LogRank) (text : String) : (log rank text).calls = [] := rfl

/-- Nothing follows a failure. -/
theorem bind_of_error {run : Run α} {failure : Failure} (h : run.result = .error failure)
    (next : α → Run β) : (run >>= next).result = .error failure := by
  show (Run.bind run next).result = _
  simp [Run.bind, h]

/-- A result is handed on, and the journals are appended. -/
theorem bind_of_ok {run : Run α} {a : α} (h : run.result = .ok a) (next : α → Run β) :
    run >>= next = ⟨run.events ++ (next a).events, (next a).result⟩ := by
  show Run.bind run next = _
  simp [Run.bind, h]

/-- A result is handed on. -/
theorem result_bind_of_ok {run : Run α} {a : α} (h : run.result = .ok a) (next : α → Run β) :
    (run >>= next).result = (next a).result := by
  rw [bind_of_ok h]

/-- The result of one run behind another is that of their results, whatever the journals hold. -/
theorem result_bind (run : Run α) (next : α → Run β) :
    (run >>= next).result = run.result >>= fun a => (next a).result := by
  cases h : run.result with
  | error failure => exact bind_of_error h next
  | ok a => exact result_bind_of_ok h next

/-- The commands of one run behind another are those of the first and then those of the second. -/
theorem calls_bind_of_ok {run : Run α} {a : α} (h : run.result = .ok a) (next : α → Run β) :
    (run >>= next).calls = run.calls ++ (next a).calls := by
  rw [bind_of_ok h, calls, calls, calls, List.filterMap_append]

/-- Behind a failure no command is invoked. -/
theorem calls_bind_of_error {run : Run α} {failure : Failure} (h : run.result = .error failure)
    (next : α → Run β) : (run >>= next).calls = run.calls := by
  show (Run.bind run next).calls = _
  simp [Run.bind, calls, h]

/-- What is known to be there is handed on, and the journal stays empty. -/
theorem ofExcept_bind_of_ok {result : Except Failure α} {a : α} (h : result = .ok a)
    (next : α → Run β) : ofExcept result >>= next = next a :=
  bind_of_ok ((result_ofExcept result).trans h) next

theorem ofExcept_bind_of_error {result : Except Failure α} {failure : Failure}
    (h : result = .error failure) (next : α → Run β) : ofExcept result >>= next = fail failure := by
  rw [h]
  rfl

/-- An attempt never fails. -/
@[simp] theorem result_attempt (run : Run α) : run.attempt.result = .ok run.result := rfl

end Run

end PackageLint
