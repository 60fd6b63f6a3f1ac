import PackageLint.Command.Inspection
import PackageLint.Command.Optimization
import PackageLint.Command.PatternScan
import PackageLint.Command.Reading
import PackageLint.CommandLine.Request
import PackageLint.Output.Overview

/-!
# What the program does

A request is carried out: the report goes to the output, the log and the complaints go to the side,
and the exit code tells whether all is well. A failure that a user can mend ends in a complaint.
-/

namespace PackageLint.CommandLine

/-- How the program ended. -/
structure Outcome where
  /-- The exit code. -/
  code : Nat := 0
  /-- The report. -/
  output : String := ""
  /-- What is said on the side in the end. -/
  complaint : String := ""
  deriving DecidableEq, Repr

namespace Outcome

/-- A report, and an exit code. -/
def report (text : String) (code : Nat) : Outcome := { code, output := text ++ "\n" }

/-- A complaint. -/
def refusal (lines : List String) : Outcome :=
  { code := 1, complaint := String.join (lines.map (· ++ "\n")) }

/-- The exit code of a condition that is to be complained of. -/
def codeIf (condition : Bool) : Nat := if condition then 1 else 0

/-- The text of a document. -/
def documentText (v : Value) : String := Json.write (some 2) v

/-- The report of a blank output. -/
def noInput : Outcome :=
  report (Json.write none (.ofFields [("error", .text Failure.noInput.message)])) 1

/-- The complaint about a failure, if the user can mend it. -/
def ofFailure? (name : String) (failure : Failure) : Option Outcome :=
  match failure with
  | .noPackage _ =>
    some (refusal [s!"❌ {failure.message}", "Run spmsift from a package root or pass its path."])
  | .noPath _ | .noDirectory _ => some (refusal [s!"❌ Error: {failure.message}"])
  | .notSource _ | .noSources => some <| refusal [s!"❌ {failure.message}",
      "Pass a .swift file or a directory containing Swift sources."]
  | .config _ => some <| refusal [s!"spmsift {name} failed: {failure.message}",
      "Fix the configuration file and retry."]
  | _ => none

/-- The analysis of an output, in a format. -/
def ofAnalysis (format : OutputFormat) (analysis : Output.Analysis) : Outcome :=
  match format with
  | .json => report (documentText analysis.toDocument) 0
  | .summary => report analysis.summary 0
  | .detailed => report analysis.details 0

end Outcome

/-- Carries out a command. -/
def Command.run (env : Environment) (input : String) : Command → Run Outcome
  | .analyze path json hangDetection => do
    let inspection ← Inspection.run env path hangDetection
    return .report (if json then Outcome.documentText inspection.toDocument
      else inspection.page hangDetection) 0
  | .parse format target keepRaw => do
    let text := String.ofList (Text.normalizeNewlines input.toList)
    match ← (Output.run text target keepRaw).attempt with
    | .ok analysis => return .ofAnalysis format analysis
    | .error .noInput => return .noInput
    | .error failure => Run.fail failure
  | .validate path options strict json => do
    let validation ← Validation.run env path options
    return .report (if json then Outcome.documentText validation.toDocument else validation.page)
      (Outcome.codeIf (strict && validation.hasErrors))
  | .optimize path apply => do
    let found ← Optimization.run env path
    return .report (Optimization.pageOf found.recommendations apply) 0
  | .patterns path threshold showPositives strict => do
    let scan ← PatternScan.run env path threshold
    return .report (scan.page showPositives)
      (Outcome.codeIf (strict && scan.issueCount != 0 || errorCount scan.issues != 0))
  | .route task caseStudies => do
    let decision ← RoutingDecision.run env caseStudies task
    return .report decision.plan 0
  | .serve => return .refusal ["No service can be run from here."]

/-- Carries out a request. -/
def Request.run (env : Environment) (input : String) (request : Request) : Run Outcome := do
  let env := { env with configuration := request.configuration }
  match ← (request.command.run env input).attempt with
  | .ok outcome => return outcome
  | .error failure =>
    match Outcome.ofFailure? request.name failure with
    | some outcome => return outcome
    | none => Run.fail failure

/-! ### The log -/

/-- A line of the log is shown: details only if everything is. -/
def isShown (verbose : Bool) (rank : LogRank) : Bool := verbose || rank ≠ .debug

/-- The log for a reader. -/
def logText (verbose : Bool) (events : List Event) : String :=
  String.join <| events.map fun event =>
    match event with
    | .log rank text => if isShown verbose rank then s!"[spmsift] {rank.name} {text}\n" else ""
    | .call _ | .load _ => ""

/-- What was said on the side. -/
def sideText (verbose : Bool) (events : List Event) (outcome : Outcome) : String :=
  logText verbose events ++ outcome.complaint

/-- The line that shows what a program takes. -/
def usage (grammar : Grammar) : String :=
  let options := grammar.options.map fun option =>
    let name := option.names.headD ""
    let key := option.key
    if option.takesWord then s!"[{name} {key}]" else s!"[{name}]"
  let operand := match grammar.operand with
    | .nothing => []
    | .optional key => [s!"[{key}]"]
    | .required key | .command key _ => [key]
  Text.joinWith " " (["usage:", grammar.program] ++ options ++ operand)

/-- The program as a whole: its run, and whether everything is logged. -/
def run (env : Environment) (arguments : List String) (input : String) : Bool × Run Outcome :=
  match Request.read arguments with
  | .error (.help grammar) => (false, pure (.report (usage grammar) 0))
  | .error (.misuse program message) =>
    (false, pure { code := 2, complaint := s!"{program}: error: {message}\n" })
  | .ok request => (request.verbose, request.run env input)

/-- The command reads an output from the input of the program. -/
def Command.readsInput : Command → Bool
  | .parse _ _ _ => true
  | _ => false

/-- The files that are named on the input of the program, one on a line. -/
def filesNamed (arguments : List String) (input : String) : List String :=
  match Request.read arguments with
  | .ok request =>
    if request.command.readsInput then []
    else ((Text.linesOf input).filter (!·.isEmpty)).map String.ofList
  | .error _ => []

/-- Without details only the lines that matter are shown. -/
@[simp] theorem logText_debug (text : String) : logText false [.log .debug text] = "" := rfl

end PackageLint.CommandLine
