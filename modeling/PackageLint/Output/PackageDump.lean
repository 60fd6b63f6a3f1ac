import PackageLint.Document.Written
import PackageLint.Json.Reader
import PackageLint.Output.Analysis
import PackageLint.Text.Search

/-!
# Dumps of a manifest

A dump is a JSON document with the targets and the dependencies of a package. Dependencies come in
two layouts: the newer one groups them by where they are kept, the older one has a flat entry for
each. A dump can be restricted to one target, which leaves the dependencies that the target names.

## Main results

* `name_eq_of_mem_restrict`: a restricted dump has targets of the one name only.
-/

namespace PackageLint.Output

/-- The number of targets up to which a package is no matter for complaint. -/
def targetLimit : Nat := 20

/-- What a dump says of a package. -/
structure PackageDump where
  /-- The name of the package. -/
  name : Option String := none
  /-- The targets. -/
  targets : List Target := []
  /-- The packages from elsewhere. -/
  external : List ExternalDependency := []
  /-- The packages in the same place. -/
  locals : List String := []
  deriving DecidableEq, Repr

/-- The first text that begins a list among some values. -/
def firstListedText? : List Value → Option String
  | [] => none
  | .list (.text s :: _) :: _ => some s
  | _ :: rest => firstListedText? rest

/-- The name of what a target depends on; the empty name is none. -/
def targetDependency? (entry : Value) : Option String :=
  let name := match entry with
    | .text s => some s
    | .table fields => firstListedText? (fields.map Prod.snd)
    | _ => none
  name.filter (!·.isEmpty)

/-- The target that a table describes; there is none without a name. -/
def targetOf (entries : Table) : Except ShapeFault (Option Target) :=
  match (Table.get entries "name").text? with
  | none => .ok none
  | some name =>
    ((Table.get entries "dependencies").elementsIfPresent).map fun found => some {
      name
      kind := (Table.get entries "type").text?.getD "regular"
      dependencies := found.filterMap targetDependency? }

/-- A range of versions as it is shown, or the version itself. -/
def boundText : Value → String
  | .table entries =>
    let lower := (Table.get entries "lowerBound").written
    let upper := Table.get entries "upperBound"
    if upper.isPresent then s!"{lower}..<{upper.written}" else lower
  | v => v.written

/-- What a requirement asks for: a range or a version, else a branch or a revision. -/
def requirementText? (requirement : Value) : Option String :=
  match requirement with
  | .table entries =>
    let values (key : String) : List Value := (Table.get entries key).items
    match values "range", values "exact", values "branch", values "revision" with
    | v :: rest, _, _, _ => some (Text.joinWith ", " ((v :: rest).map boundText))
    | [], v :: rest, _, _ => some (Text.joinWith ", " ((v :: rest).map boundText))
    | [], [], v :: _, _ => some s!"branch: {v.written}"
    | [], [], [], v :: _ => some s!"revision: {v.written}"
    | _, _, _, _ => none
  | _ => none

/-- Where the package of an entry under source control is fetched from. -/
def remoteUrl (entry : Table) : Except ShapeFault (Option String) := do
  let location := (Table.get entry "location").orElse (.table [])
  -- Where nothing is said of the place there is a place without an address.
  let remotes := (← location.field "remote").orElse (.list [.table []])
  let remote ← remotes.first
  return match remote with
    | .table fields => (Table.get fields "urlString").text?
    | v => v.text?

/-- A dependency of a package: fetched from elsewhere, or kept in the same place. -/
inductive PackageDependency
  /-- A package from elsewhere. -/
  | external (package : ExternalDependency)
  /-- A package in the same place. -/
  | inPlace (name : String)
  deriving DecidableEq, Repr

namespace PackageDependency

/-- The dependency that an entry under source control describes. -/
def ofSourceControl (entry : Table) : Except ShapeFault PackageDependency :=
  (remoteUrl entry).map fun url => .external {
    name := ((Table.find? entry (.text "identity")).getD (.text "")).written
    url
    version := requirementText? (Table.get entry "requirement") }

/-- The dependency that an entry of the file system describes. -/
def ofFileSystem (entry : Table) : PackageDependency :=
  let name := ((Table.get entry "identity").orElse (Table.get entry "path")).orElse (.text "")
  .inPlace name.written

/-- The dependency that an entry of the newer layout describes: the first table under source
control, else the first one of the file system. -/
def ofGrouped (entries : Table) : Except ShapeFault (Option PackageDependency) := do
  let controlled ← (Table.get entries "sourceControl").elementsIfPresent
  match controlled.findSome? Value.table? with
  | some entry => (ofSourceControl entry).map some
  | none =>
    let kept ← (Table.get entries "fileSystem").elementsIfPresent
    return (kept.findSome? Value.table?).map ofFileSystem

/-- The dependency that an entry of the older layout describes. -/
def ofFlat? (entries : Table) : Option PackageDependency :=
  let url := Table.get entries "url"
  match ((Table.get entries "name").orElse (Table.get entries "identity")).text? with
  | none => none
  | some name =>
    if url.isNull && !(Table.get entries "path").isNull then some (.inPlace name)
    else some (.external {
      name
      url := url.text?
      version := requirementText? (Table.get entries "requirement") })

/-- The dependency that an entry describes. -/
def ofTable (entries : Table) : Except ShapeFault (Option PackageDependency) :=
  if Table.has entries "sourceControl" || Table.has entries "fileSystem" then ofGrouped entries
  else .ok (ofFlat? entries)

/-- The package from elsewhere that a dependency is. -/
def external? : PackageDependency → Option ExternalDependency
  | external package => some package
  | inPlace _ => none

/-- The name of the package in the same place that a dependency is; the empty name is none. -/
def local? : PackageDependency → Option String
  | external _ => none
  | inPlace name => if name.isEmpty then none else some name

end PackageDependency

namespace PackageDump

/-- What a document says of its package. -/
def ofTable (entries : Table) : Except ShapeFault PackageDump := do
  let targets ← (Table.get entries "targets").elementsIfPresent
  let targets ← (targets.filterMap Value.table?).mapM targetOf
  let dependencies ← (Table.get entries "dependencies").elementsIfPresent
  let dependencies ← (dependencies.filterMap Value.table?).mapM PackageDependency.ofTable
  let dependencies := dependencies.filterMap id
  return {
    name := (Table.get entries "name").text?
    targets := targets.filterMap id
    external := dependencies.filterMap (·.external?)
    locals := dependencies.filterMap (·.local?) }

/-- A dump with the targets of one name and the dependencies that they name. -/
def restrict (dump : PackageDump) (target : String) : PackageDump :=
  let selected := dump.targets.filter (·.name = target)
  -- A dependency is kept if one of the targets names it.
  let wanted := selected.flatMap (·.dependencies)
  { dump with
    targets := selected
    external := dump.external.filter (wanted.contains ·.name)
    locals := dump.locals.filter wanted.contains }

/-- What is wrong with the structure of a package. -/
def issues (dump : PackageDump) : List Issue :=
  if dump.targets.isEmpty then
    [{ kind := .missingTarget, severity := .warning, message := "No targets found in package" }]
  else if targetLimit < dump.targets.length then
    [{ kind := .performance
       severity := .warning
       message := s!"Package has many targets ({dump.targets.length})" }]
  else []

/-- The analysis of a dump, restricted to a target if one is given; a restricted dump has no
issues. -/
def analysis (dump : PackageDump) (filter : Option String) : Analysis :=
  let view := filter.elim dump dump.restrict
  { command := .dumpPackage
    success := true
    packageName := view.name
    targets := some { count := view.targets.length, filter, targets := view.targets }
    dependencies := some { external := view.external, locals := view.locals }
    issues := if filter.isNone then view.issues else [] }

/-- The analysis of a text that is no dump. -/
def unreadable (message : String) : Analysis where
  command := .dumpPackage
  success := false
  issues := [{ kind := .syntaxError, severity := .error, message }]

/-- The analysis of the text of a dump. -/
def read (text : String) (filter : Option String) : Except ShapeFault Analysis :=
  match Json.read text.toList with
  | .error failure =>
    .ok (unreadable s!"Invalid JSON in dump-package output: {failure.flaw.message}")
  | .ok (.table entries) => (ofTable entries).map (·.analysis filter)
  | .ok _ => .ok (unreadable "dump-package output is not a JSON object")

/-- A restricted dump has targets of the one name only. -/
theorem name_eq_of_mem_restrict {dump : PackageDump} {target : String} {t : Target}
    (h : t ∈ (dump.restrict target).targets) : t.name = target := by
  simpa [restrict] using (List.mem_filter.1 h).2

end PackageDump

end PackageLint.Output
