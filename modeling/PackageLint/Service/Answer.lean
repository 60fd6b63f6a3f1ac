import PackageLint.Command.Inspection
import PackageLint.Command.Optimization
import PackageLint.Command.PatternScan
import PackageLint.Command.Reading
import PackageLint.Command.Validation
import PackageLint.Service.Body

/-!
# The service

The commands as requests to a service. Each endpoint has a path and a method; a failure of a
command is told by the status of the answer.

## Main results

* `Endpoint.ofPath?_path`: every endpoint is found by its path;
* `isOk_result_answer`: every request has an answer.
-/

namespace PackageLint.Service

/-- What the service can be asked for. -/
inductive Endpoint
  /-- Whether the service is well. -/
  | health
  /-- To validate a package. -/
  | validate
  /-- To scan sources for patterns. -/
  | patterns
  /-- To decide what to read for a task. -/
  | route
  /-- To read an output. -/
  | parse
  deriving DecidableEq, Repr

namespace Endpoint

/-- The path of an endpoint. -/
def path : Endpoint → String
  | health => "/health"
  | validate => "/validate"
  | patterns => "/tca-patterns"
  | route => "/route"
  | parse => "/parse"

/-- The method of an endpoint. -/
def method : Endpoint → String
  | health => "GET"
  | _ => "POST"

/-- All endpoints. -/
def all : List Endpoint := [health, validate, patterns, route, parse]

/-- The endpoint of a path. -/
def ofPath? (path : String) : Option Endpoint := all.find? (·.path = path)

/-- Every endpoint is found by its path. -/
theorem ofPath?_path (endpoint : Endpoint) : ofPath? endpoint.path = some endpoint := by
  cases endpoint <;> decide

end Endpoint

/-- A request. -/
structure Request where
  /-- The path. -/
  path : String
  /-- The method. -/
  method : String := "POST"
  /-- The body, if there is one. -/
  body : Option Value := none

/-- An answer. Where the status says all, nothing is promised of the body. -/
structure Answer where
  /-- The status. -/
  status : Nat := 200
  /-- The body. -/
  body : Option Value := none

namespace Answer

/-- An answer with a body. -/
def ok (body : Value) : Answer := { body }

/-- An answer that says why there is none. -/
def refusal (status : Nat) (detail : String) : Answer :=
  { status, body := some (.ofFields [("detail", .text detail)]) }

/-- The answer to a path that nobody knows. -/
def unknownPath : Answer := refusal 404 "Not Found"

/-- The answer to a method that a path does not take. -/
def wrongMethod : Answer := refusal 405 "Method Not Allowed"

/-- The answer to a body that a request cannot have. -/
def wrongBody : Answer := { status := 422 }

/-- The answer to a failure that nobody expects. -/
def broken : Answer := { status := 500 }

/-- The answer to a failure of a command. -/
def ofFailure (failure : Failure) : Answer :=
  match failure with
  | .noPackage _ | .noPath _ | .noDirectory _ => refusal 404 failure.message
  | .notSource _ | .noSources | .noInput | .config _ | .toolchain _ => refusal 400 failure.message
  | .undecodable _ | .value _ | .tooLarge | .pattern _ | .shape _ | .unknownChecks _ | .noCheck _
  | .check _ => broken

end Answer

/-! ### Documents -/

/-- A validation as a document. -/
def validationDocument (validation : Validation) : Value := .ofFields [
  ("package_path", .text validation.packagePath),
  ("checks", .ofTexts validation.checks),
  ("diagnostics", Report.toDocument validation.findings),
  ("has_errors", .bool validation.hasErrors)]

/-- A decision as a document. -/
def decisionDocument (decision : RoutingDecision) : Value :=
  let category := decision.route.map (·.category)
  let field (f : TaskCategory → String) : Value := .ofText? (category.map f)
  .ofFields [
    ("task", .text decision.task),
    ("category", field (·.name)),
    ("description", field (·.description)),
    ("primary_doc", .text ((category.map (·.primary)).getD TaskCategory.defaultPlan)),
    ("sections", field (·.sections)),
    ("time_budget", field (·.timeBudget)),
    ("fallback_doc", .ofText? (category.bind (·.fallback))),
    ("match_score", .ofNat (decision.route.elim 0 (·.score))),
    ("case_study", .ofText? decision.caseStudy),
    ("guidance", .ofTexts decision.guidance)]

/-! ### Answering -/

/-- The command that a body asks an endpoint for, and the document of its result. -/
def command (env : Environment) : Endpoint → Body → Except BodyFault (Run Value)
  | .health, _ => .ok (pure (.ofFields [("status", .text "ok")]))
  | .validate, body => do
    let path ← body.text "path"
    let options : ValidationOptions := {
      deep := ← body.flag "deep"
      checksResolved := ← body.flag "check_resolved"
      flagsBranches := ← body.flag "flag_branch_deps"
      checksMacros := ← body.flag "macro_diagnostics"
      checksSources := ← body.flag "tca_patterns" }
    return do return validationDocument (← Validation.run env (.ofText path) options)
  | .patterns, body => do
    let path ← body.text "path"
    let threshold := Severity.ofName (← body.textOr "severity" Severity.warning.name)
    return do return (← PatternScan.run env (.ofText path) threshold).toDocument
  | .route, body => do
    let task ← body.text "task"
    let directory := (← body.text? "case_studies_dir").filter (!·.isEmpty)
    return do return decisionDocument (← RoutingDecision.run env (directory.map Path.ofText) task)
  | .parse, body => do
    let text ← body.text "output"
    let target ← body.text? "target"
    let keepRaw ← body.flag "include_raw"
    return do return (← Output.run text target keepRaw).toDocument

/-- The body of a request to an endpoint, of which only some take one. -/
def bodyOf (endpoint : Endpoint) (request : Request) : Except BodyFault Body :=
  if endpoint = .health then .ok [] else Body.ofValue? request.body

/-- Answers a request to an endpoint. -/
def answerAt (env : Environment) (endpoint : Endpoint) (request : Request) : Run Answer :=
  match bodyOf endpoint request >>= command env endpoint with
  | .error _ => pure .wrongBody
  | .ok run => do
    match ← run.attempt with
    | .ok document => return .ok document
    | .error failure => return .ofFailure failure

/-- Answers a request. -/
def answer (env : Environment) (request : Request) : Run Answer :=
  match Endpoint.ofPath? request.path with
  | none => pure .unknownPath
  | some endpoint =>
    if request.method = endpoint.method then answerAt env endpoint request else pure .wrongMethod

/-- Every request has an answer. -/
theorem isOk_result_answer (env : Environment) (request : Request) :
    (answer env request).result.isOk = true := by
  unfold answer
  split
  · rfl
  · split
    · unfold answerAt
      split
      · rfl
      · rw [Run.result_bind_of_ok (Run.result_attempt _)]
        split <;> rfl
    · rfl

end PackageLint.Service
