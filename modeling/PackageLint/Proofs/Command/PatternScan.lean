import Mathlib
import PackageLint.CommandLine.Outcome
import PackageLint.Proofs.Outcome
import PackageLint.Proofs.Rules.Evaluation

/-!
# A threshold hides issues and nothing else

What a scan starts from, the source files and the rules, does not depend on the threshold. With a
higher threshold a scan is therefore the same scan without some of its issues, and the exit code of
the command, which asks for errors unless it is strict, is the same for all thresholds that can be
asked for.

## Main definitions

* `PatternScan.above`: a scan without the issues below a threshold;
* `PatternScan.inputs`: the files and the rules of a scan;
* `PatternScan.FindsError`: a rule that is an error is found in a file;
* `CommandLine.Request.settle`: what becomes of the result of a command.

## Main results

* `PatternScan.result_run` and `PatternScan.result_run_above`: scans of one path;
* `PatternScan.errorCount_above`: thresholds up to errors hide no error;
* `CommandLine.Request.result_run`: a request in terms of its command;
* `CommandLine.threshold_only_hides`: scans and exit codes at all thresholds.
-/

namespace PackageLint

/-- The file without the issues below a threshold. -/
def ScannedFile.above (threshold : Severity) (file : ScannedFile) : ScannedFile :=
  { file with issues := file.issues.filter (·.severity.atLeast threshold) }

namespace PatternScan

/-- The scan without the issues below a threshold. -/
def above (threshold : Severity) (scan : PatternScan) : PatternScan :=
  { scan with files := scan.files.map (·.above threshold) }

/-- Above a threshold those issues are left that are as bad as it. -/
theorem issues_above (threshold : Severity) (scan : PatternScan) :
    (scan.above threshold).issues = scan.issues.filter (·.severity.atLeast threshold) := by
  rw [issues, issues, above, List.flatMap_map, List.filter_flatMap]
  rfl

/-- A threshold up to errors hides no error. -/
theorem errorCount_above {threshold : Severity} (h : Severity.error.atLeast threshold = true)
    (scan : PatternScan) : errorCount (scan.above threshold).issues = errorCount scan.issues := by
  rw [errorCount, errorCount, issues_above, List.countP_filter]
  refine List.countP_congr fun issue _ => ?_
  -- What is an error is at least as bad as a threshold that an error reaches.
  constructor
  · intro hboth
    exact (Bool.and_eq_true_iff.1 hboth).1
  · intro herror
    rw [herror, Severity.atLeast_trans herror h]
    rfl

/-! ### Runs -/

/-- What a threshold leaves of a file, a higher one leaves of what a lower one has left. -/
theorem scanText_above (finds : String → List Char → Bool) (tables : RuleTables)
    {lower upper : Severity} (h : upper.atLeast lower = true) (name : String) (text : List Char) :
    (scanText finds tables lower name text).above upper =
      scanText finds tables upper name text := by
  simp only [scanText, ScannedFile.above, List.filter_filter]
  congr 1
  refine List.filter_congr fun issue _ => ?_
  cases hupper : issue.severity.atLeast upper with
  | true => rw [Severity.atLeast_trans hupper h, Bool.and_self]
  | false => rw [Bool.false_and]

/-- What is found in one file; nothing in a file that is no text. -/
def scanFile (env : Environment) (tables : RuleTables) (threshold : Severity) (file : Path) :
    ScannedFile :=
  match env.disk.readText? file with
  | some text => scanText env.languages.finds tables threshold file.name text
  | none => { name := file.name }

/-- A file is listed under its name, whether it can be read or not. -/
theorem name_scanFile (env : Environment) (tables : RuleTables) (threshold : Severity)
    (file : Path) : (scanFile env tables threshold file).name = file.name := by
  unfold scanFile
  cases env.disk.readText? file <;> rfl

/-- The same of a file: one that is no text has no issues to hide. -/
theorem scanFile_above (env : Environment) (tables : RuleTables) {lower upper : Severity}
    (h : upper.atLeast lower = true) (file : Path) :
    (scanFile env tables lower file).above upper = scanFile env tables upper file := by
  unfold scanFile
  cases env.disk.readText? file with
  | none => rfl
  | some text => exact scanText_above env.languages.finds tables h file.name text

/-- Every file is scanned, whatever becomes of the others. -/
theorem result_scanFiles (env : Environment) (tables : RuleTables) (threshold : Severity)
    (files : List Path) :
    (scanFiles env tables threshold files).result =
      .ok (files.map (scanFile env tables threshold)) := by
  induction files with
  | nil => rfl
  | cons file rest ih =>
    rw [scanFiles, List.map_cons, scanFile]
    -- A file that is no text leaves a line in the log, and the files behind it are scanned.
    cases env.disk.readText? file with
    | some text => exact Run.result_bind_of_ok ih _
    | none => exact Run.result_bind_of_ok ih _

/-- The source files of a scan and the rules that are tried on them. -/
def inputs (env : Environment) (path : Path) : Except Failure (List Path × RuleTables) := do
  let (config, files) ← sourcesAt env (env.disk.resolve path)
  if files.isEmpty then throw .noSources
  let tables ← (env.rules config).result
  return (files, tables)

/-- The scan of some files. -/
def ofFiles (env : Environment) (path : Path) (threshold : Severity) (files : List Path)
    (tables : RuleTables) : PatternScan where
  path := (env.disk.resolve path).text
  files := files.map (scanFile env tables threshold)

/-- A scan fails where its inputs are missing, and nowhere else. -/
theorem result_run (env : Environment) (path : Path) (threshold : Severity) :
    (run env path threshold).result =
      (inputs env path).map fun found => ofFiles env path threshold found.1 found.2 := by
  rw [run, inputs]
  cases sourcesAt env (env.disk.resolve path) with
  | error failure => rfl
  | ok sources =>
    obtain ⟨config, files⟩ := sources
    rw [Run.ofExcept_bind_of_ok rfl]
    -- The rules are loaded behind the check for files, so a scan of nothing fails before them.
    cases files with
    | nil => rfl
    | cons file rest =>
      refine (Run.result_bind _ _).trans ?_
      show _ = Except.map _ ((env.rules config).result >>= _)
      cases (env.rules config).result with
      | error failure => rfl
      | ok tables => exact Run.result_bind_of_ok (result_scanFiles _ _ _ _) _

/-- With files to scan and rules that load there is something to do. -/
theorem inputs_eq_ok {env : Environment} {path : Path} {config : Config} {files : List Path}
    {tables : RuleTables} (hsources : sourcesAt env (env.disk.resolve path) = .ok (config, files))
    (hfiles : files ≠ [])
    (htables : (env.rules config).result = .ok tables) :
    inputs env path = .ok (files, tables) := by
  have hempty : files.isEmpty = false := List.isEmpty_eq_false_iff.2 hfiles
  simp [inputs, hsources, hempty, htables, bind, Except.bind, pure, Except.pure]

/-- Scanning with a low threshold and raising it afterwards is scanning with the high one. -/
theorem ofFiles_above (env : Environment) (path : Path) {lower upper : Severity}
    (h : upper.atLeast lower = true) (files : List Path) (tables : RuleTables) :
    (ofFiles env path lower files tables).above upper = ofFiles env path upper files tables := by
  simp only [above, ofFiles, List.map_map]
  congr 1
  exact List.map_congr_left fun file _ => scanFile_above env tables h file

/-- With a higher threshold a scan is the same scan without the issues below it, and it fails where
that one fails. -/
theorem result_run_above (env : Environment) (path : Path) {lower upper : Severity}
    (h : upper.atLeast lower = true) :
    (run env path upper).result = (run env path lower).result.map (·.above upper) := by
  rw [result_run, result_run]
  cases inputs env path with
  | error failure => rfl
  | ok found => exact congrArg Except.ok (ofFiles_above env path h found.1 found.2).symm

/-! ### Errors -/

/-- A rule that can be reported for a text is found in it, and it is an error or worse. -/
def FindsError (env : Environment) (tables : RuleTables) (file : Path) : Prop :=
  ∃ text, env.disk.readText? file = some text ∧
    ∃ rule, env.languages.finds rule.pattern text = true ∧
      (rule.severity.getD .error).atLeast .error = true ∧
      (rule ∈ tables.deprecated ∨ rule ∈ tables.antiPatterns ∨
        ∃ gate ∈ tables.contextual, gate.marker.toList <:+: text ∧ rule ∈ gate.rules)

/-- The issues of a text are those of the rules that are reported. -/
theorem mem_issues_evaluateWith_iff {found : Rule → List Char → Bool} {tables : RuleTables}
    {text : List Char} {file : Option String} {issue : RuleIssue} :
    issue ∈ (tables.evaluateWith found text file).issues ↔
      ∃ rule, (found rule text = true ∧
        (rule ∈ tables.deprecated ∨ rule ∈ tables.antiPatterns ∨
          ∃ gate ∈ tables.contextual, gate.marker.toList <:+: text ∧ rule ∈ gate.rules)) ∧
        RuleIssue.ofRule file rule = issue := by
  have htried := RuleTables.hasTried_searchWith found tables text file
  rw [RuleTables.evaluateWith, htried.issues, ← htried.reported, List.mem_map]
  simp only [RuleTables.mem_reported_iff]

/-- A file has an issue that is an error exactly if a rule that is one is found in it. -/
theorem exists_error_mem_issues_scanFile_iff {env : Environment} {tables : RuleTables}
    {threshold : Severity} (h : Severity.error.atLeast threshold = true) {file : Path} :
    (∃ issue ∈ (scanFile env tables threshold file).issues,
      issue.severity.atLeast .error = true) ↔ FindsError env tables file := by
  unfold scanFile FindsError
  cases env.disk.readText? file with
  | none => simp
  | some text =>
    simp only [scanText, List.mem_filter, mem_issues_evaluateWith_iff, Option.some.injEq,
      exists_eq_left']
    constructor
    · rintro ⟨_, ⟨⟨rule, ⟨hfinds, htable⟩, rfl⟩, -⟩, herror⟩
      exact ⟨rule, hfinds, herror, htable⟩
    -- The threshold is no obstacle, as an error reaches it.
    · rintro ⟨rule, hfinds, herror, htable⟩
      have hthreshold := Severity.atLeast_trans herror h
      exact ⟨_, ⟨⟨rule, ⟨hfinds, htable⟩, rfl⟩, hthreshold⟩, herror⟩

/-- Up to a threshold of errors, the scan has one exactly if some file does. -/
theorem errorCount_ofFiles_ne_zero_iff {env : Environment} {path : Path} {threshold : Severity}
    (h : Severity.error.atLeast threshold = true) {files : List Path} {tables : RuleTables} :
    errorCount (ofFiles env path threshold files tables).issues ≠ 0 ↔
      ∃ file ∈ files, FindsError env tables file := by
  rw [errorCount, ← Nat.pos_iff_ne_zero, List.countP_pos_iff]
  simp only [← exists_error_mem_issues_scanFile_iff h, issues, ofFiles, List.mem_flatMap,
    List.mem_map]
  constructor
  · rintro ⟨issue, ⟨_, ⟨file, hfile, rfl⟩, hissue⟩, herror⟩
    exact ⟨file, hfile, issue, hissue, herror⟩
  · rintro ⟨file, hfile, issue, hissue, herror⟩
    exact ⟨issue, ⟨_, ⟨file, hfile, rfl⟩, hissue⟩, herror⟩

/-- The number of errors is the same for all thresholds up to errors. -/
theorem errorCount_ofFiles {threshold other : Severity}
    (h : Severity.error.atLeast threshold = true) (h' : Severity.error.atLeast other = true)
    (env : Environment) (path : Path) (files : List Path) (tables : RuleTables) :
    errorCount (ofFiles env path threshold files tables).issues =
      errorCount (ofFiles env path other files tables).issues := by
  -- Both scans are what a threshold leaves of the scan that hides nothing.
  have hinfo (s : Severity) : s.atLeast .info = true := by cases s <;> rfl
  rw [← ofFiles_above env path (hinfo threshold), ← ofFiles_above env path (hinfo other),
    errorCount_above h, errorCount_above h']

end PatternScan

namespace CommandLine

/-! ### Exit codes -/

/-- What becomes of the result of a command: a failure that the user can mend is complained of. -/
def Request.settle (name : String) : Except Failure Outcome → Except Failure Outcome
  | .ok outcome => .ok outcome
  | .error failure =>
    match Outcome.ofFailure? name failure with
    | some outcome => .ok outcome
    | none => .error failure

/-- A request ends as its command does, with the configuration that it names. -/
theorem Request.result_run (env : Environment) (input : String) (request : Request) :
    (request.run env input).result = settle request.name
      (request.command.run { env with configuration := request.configuration } input).result := by
  rw [Request.run, Run.result_bind_of_ok (Run.result_attempt _)]
  cases (request.command.run { env with configuration := request.configuration } input).result with
  | ok outcome => rfl
  | error failure =>
    simp only [settle]
    cases Outcome.ofFailure? request.name failure <;> rfl

/-- The exit code of a scan: errors are always complained of, other issues in a strict run. -/
def scanCode (strict : Bool) (scan : PatternScan) : Nat :=
  Outcome.codeIf (strict && scan.issueCount != 0 || errorCount scan.issues != 0)

/-- The command ends with the page and the exit code of its scan, or as the scan does. -/
theorem Command.result_run_patterns (env : Environment) (input : String) (path : Path)
    (threshold : Severity) (showPositives strict : Bool) :
    ((Command.patterns path threshold showPositives strict).run env input).result =
      (PatternScan.run env path threshold).result.map fun scan =>
        .report (scan.page showPositives) (scanCode strict scan) := by
  rw [Command.run]
  cases hscan : (PatternScan.run env path threshold).result with
  | error failure => exact Run.bind_of_error hscan _
  | ok scan => exact Run.result_bind_of_ok hscan _

/-- The exit code is zero where there is nothing to fail for. -/
theorem Outcome.codeIf_eq_zero_iff {condition : Bool} :
    codeIf condition = 0 ↔ condition = false := by
  cases condition <;> decide

/-- The exit code is one where there is something to fail for. -/
theorem Outcome.codeIf_eq_one_iff {condition : Bool} : codeIf condition = 1 ↔ condition = true := by
  cases condition <;> decide

/-- A scan goes well if it finds no error, and if it is strict nothing at all. -/
theorem scanCode_eq_zero_iff {strict : Bool} {scan : PatternScan} :
    scanCode strict scan = 0 ↔ (strict = true → scan.issues = []) ∧
      ∀ issue ∈ scan.issues, issue.severity.atLeast .error = false := by
  rw [scanCode, Outcome.codeIf_eq_zero_iff]
  simp [PatternScan.issueCount, errorCount, List.countP_eq_zero]

/-- A run that is not strict asks for errors alone. -/
theorem scanCode_false (scan : PatternScan) :
    scanCode false scan = Outcome.codeIf (errorCount scan.issues != 0) := rfl

/-- What is left of a scan that passes, passes. -/
theorem scanCode_above {strict : Bool} {scan : PatternScan} (h : scanCode strict scan = 0)
    (threshold : Severity) : scanCode strict (scan.above threshold) = 0 := by
  rw [scanCode_eq_zero_iff] at h ⊢
  rw [PatternScan.issues_above]
  refine ⟨fun hstrict => ?_, fun issue hissue => h.2 issue (List.mem_of_mem_filter hissue)⟩
  rw [h.1 hstrict, List.filter_nil]

/-- The surroundings with the configuration that settings of the program name. -/
def surroundings (env : Environment) (own : Settings) : Environment :=
  { env with configuration := (own.lookup "config").map Path.ofText }

/-- The exit code of a scan for patterns whose threshold is named by a word. -/
def patternsCode (env : Environment) (input : String) (own settings : Settings) (word : String) :
    Except Failure Nat :=
  ((Request.ofSettings "tca-patterns" own (("severity", word) :: settings)).run env
    input).result.map (·.code)

/-- The words for a threshold. -/
def thresholdWords : List String := ["error", "warning", "info"]

/-- They are the words that the option takes. -/
example : ((commands.lookup "tca-patterns").bind (·.option? "--severity")).map (·.kind) =
    some (.word thresholdWords) := by decide +kernel

/-- The exit code by the inputs of the scan: a failure is treated in the same way whatever the
threshold is. -/
theorem patternsCode_eq (env : Environment) (input : String) (own settings : Settings)
    (word : String) :
    patternsCode env input own settings word =
      match PatternScan.inputs (surroundings env own) settings.path with
      | .error failure => (Request.settle "tca-patterns" (.error failure)).map (·.code)
      | .ok found => .ok (scanCode (settings.has "strict")
          (.ofFiles (surroundings env own) settings.path (.ofName word) found.1 found.2)) := by
  rw [patternsCode, Request.result_run]
  have hcommand : (Request.ofSettings "tca-patterns" own (("severity", word) :: settings)).command =
      .patterns settings.path (.ofName word) (settings.has "show-positives")
        (settings.has "strict") := rfl
  have hsurroundings : { env with configuration := (Request.ofSettings "tca-patterns" own
      (("severity", word) :: settings)).configuration } = surroundings env own := rfl
  rw [hcommand, hsurroundings, Command.result_run_patterns, PatternScan.result_run]
  cases PatternScan.inputs (surroundings env own) settings.path <;> rfl

/-- None of the words for a threshold hides errors. -/
theorem error_atLeast_ofName {word : String} (h : word ∈ thresholdWords) :
    Severity.error.atLeast (.ofName word) = true :=
  (by decide : ∀ word ∈ thresholdWords, Severity.error.atLeast (.ofName word) = true) word h

section

variable {env : Environment} {input : String} {own settings : Settings}

/-- All words for a threshold lead to the same code, failures included. -/
theorem patternsCode_congr (hstrict : settings.has "strict" = false) {word other : String}
    (hword : word ∈ thresholdWords) (hother : other ∈ thresholdWords) :
    patternsCode env input own settings word = patternsCode env input own settings other := by
  rw [patternsCode_eq, patternsCode_eq, hstrict]
  cases PatternScan.inputs (surroundings env own) settings.path with
  | error failure => rfl
  | ok found =>
    simp only [scanCode_false]
    rw [PatternScan.errorCount_ofFiles (error_atLeast_ofName hword) (error_atLeast_ofName hother)]

/-- Where there are files and rules, the code tells whether a rule that is an error is found. -/
theorem patternsCode_iff {config : Config} {files : List Path} {tables : RuleTables}
    (hsources : PatternScan.sourcesAt (surroundings env own)
      ((surroundings env own).disk.resolve settings.path) = .ok (config, files))
    (hfiles : files ≠ [])
    (htables : (env.rules config).result = .ok tables)
    (hstrict : settings.has "strict" = false) {word : String} (hword : word ∈ thresholdWords) :
    (patternsCode env input own settings word = .ok 1 ↔
      ∃ file ∈ files, PatternScan.FindsError env tables file) ∧
    (patternsCode env input own settings word = .ok 0 ↔
      ¬ ∃ file ∈ files, PatternScan.FindsError env tables file) := by
  have hinputs := PatternScan.inputs_eq_ok hsources hfiles htables
  -- No threshold that can be asked for hides an error, so the code tells whether there is one.
  have herror : errorCount (PatternScan.ofFiles (surroundings env own) settings.path
      (.ofName word) files tables).issues ≠ 0 ↔
        ∃ file ∈ files, PatternScan.FindsError env tables file :=
    PatternScan.errorCount_ofFiles_ne_zero_iff (error_atLeast_ofName hword)
  rw [patternsCode_eq, hstrict, hinputs, ← herror]
  simp [scanCode_false, Outcome.codeIf_eq_zero_iff, Outcome.codeIf_eq_one_iff]

/-- A run that passes, passes with every higher threshold. -/
theorem patternsCode_mono {lower upper : String}
    (hrank : (Severity.ofName lower).rank ≤ (Severity.ofName upper).rank)
    (h : patternsCode env input own settings lower = .ok 0) :
    patternsCode env input own settings upper = .ok 0 := by
  rw [patternsCode_eq] at h ⊢
  cases hinputs : PatternScan.inputs (surroundings env own) settings.path with
  -- A failure does not know of the threshold: if it passes at one, it passes at the other.
  | error failure => rwa [hinputs] at h
  | ok found =>
    rw [hinputs] at h
    simp only [Except.ok.injEq] at h ⊢
    rw [← PatternScan.ofFiles_above _ _ (decide_eq_true hrank)]
    exact scanCode_above h _

end

/-- A threshold hides issues and nothing else. With a higher threshold a scan is the same scan
without the issues below it; where there are files and rules there is a scan, of all the files.
Unless it is strict, the command ends with the same code for all thresholds that can be asked for:
where there are files and rules, with 1 if a rule that is an error is found in a file, and with 0 if
none is. A run that passes, strict or not, passes with every higher threshold. -/
theorem threshold_only_hides (env : Environment) :
    (∀ (path : Path) (lower upper : Severity), lower.rank ≤ upper.rank →
      (PatternScan.run env path upper).result =
        (PatternScan.run env path lower).result.map (·.above upper)) ∧
    (∀ (path : Path) (config : Config) (files : List Path) (tables : RuleTables),
      PatternScan.sourcesAt env (env.disk.resolve path) = .ok (config, files) → files ≠ [] →
      (env.rules config).result = .ok tables →
      ∀ threshold, ∃ scan, (PatternScan.run env path threshold).result = .ok scan ∧
        scan.files.map (·.name) = files.map (·.name)) ∧
    ∀ (input : String) (own settings : Settings),
      let code := patternsCode env input own settings
      (settings.has "strict" = false →
        ∀ word ∈ thresholdWords, ∀ other ∈ thresholdWords, code word = code other) ∧
      (settings.has "strict" = false →
        ∀ (config : Config) (files : List Path) (tables : RuleTables),
          PatternScan.sourcesAt (surroundings env own)
            ((surroundings env own).disk.resolve settings.path) = .ok (config, files) →
          files ≠ [] → (env.rules config).result = .ok tables →
          ∀ word ∈ thresholdWords,
            (code word = .ok 1 ↔ ∃ file ∈ files, PatternScan.FindsError env tables file) ∧
            (code word = .ok 0 ↔ ¬ ∃ file ∈ files, PatternScan.FindsError env tables file)) ∧
      ∀ lower upper : String, (Severity.ofName lower).rank ≤ (Severity.ofName upper).rank →
        code lower = .ok 0 → code upper = .ok 0 := by
  refine ⟨fun path lower upper hrank => ?_,
    fun path config files tables hsources hfiles htables threshold => ?_,
    fun input own settings => ⟨fun hstrict word hword other hother => ?_,
      fun hstrict config files tables hsources hfiles htables word hword => ?_,
      fun lower upper hrank hpass => ?_⟩⟩
  · exact PatternScan.result_run_above env path (decide_eq_true hrank)
  · refine ⟨.ofFiles env path threshold files tables, ?_, ?_⟩
    · rw [PatternScan.result_run, PatternScan.inputs_eq_ok hsources hfiles htables]
      rfl
    · rw [PatternScan.ofFiles, List.map_map]
      exact List.map_congr_left fun file _ => PatternScan.name_scanFile _ _ _ file
  · exact patternsCode_congr hstrict hword hother
  · exact patternsCode_iff hsources hfiles htables hstrict hword
  · exact patternsCode_mono hrank hpass

/-- In a scan of a file with a deprecated view, every threshold leads to the code 1. -/
theorem threshold_only_hides_deprecatedView :
    let env : Environment := {
      disk := { root := .directory [("View.swift", .file "WithViewStore(store)".toUTF8.toList)] }
      toolchain := fun _ => .error (.missingExecutable "swift") }
    ∀ word ∈ thresholdWords, patternsCode env "" [] [] word = .ok 1 := by
  intro env word hword
  have hscan : (PatternScan.sourcesAt (surroundings env [])
      ((surroundings env []).disk.resolve (Settings.path []))).map
        (fun found => (found.1.rules, found.2)) =
          .ok (none, [{ root := "/", parts := ["View.swift"] }]) := by decide +kernel
  obtain ⟨⟨config, files⟩, hsources, hfound⟩ := map_eq_ok_iff.1 hscan
  obtain ⟨hrules, rfl⟩ := Prod.mk.inj hfound
  have htables := @Environment.result_rules_of_none env _ hrules
  obtain ⟨-, -, hcode⟩ := threshold_only_hides env
  obtain ⟨-, hcode, -⟩ := hcode "" [] []
  refine (hcode rfl config _ _ hsources (List.cons_ne_nil _ _) htables word hword).1.2 ?_
  refine ⟨_, .head _, "WithViewStore(store)".toList, by decide +kernel, ?_⟩
  exact ⟨_, by decide +kernel, by decide +kernel, .inl (.head _)⟩

end CommandLine

end PackageLint
