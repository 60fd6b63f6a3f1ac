import PackageLint.Command.Validation
import PackageLint.CommandLine.Grammar

/-!
# Requests of the command line

The commands of the program with their options, and the request that arguments make.
-/

namespace PackageLint.CommandLine

/-- How an analysis is shown. -/
inductive OutputFormat
  /-- As a document. -/
  | json
  /-- On one line. -/
  | summary
  /-- In full. -/
  | detailed
  deriving DecidableEq, Repr

/-- The name of a format. -/
def OutputFormat.name : OutputFormat → String
  | json => "json"
  | summary => "summary"
  | detailed => "detailed"

/-- All formats. -/
def OutputFormat.all : List OutputFormat := [json, summary, detailed]

/-- The format of a name, documents where there is none. -/
def OutputFormat.ofName (s : String) : OutputFormat := (all.find? (·.name = s)).getD json

/-- What the program is asked to do. -/
inductive Command
  /-- To inspect a package. -/
  | analyze (path : Path) (json hangDetection : Bool)
  /-- To read an output. -/
  | parse (format : OutputFormat) (target : Option String) (keepRaw : Bool)
  /-- To validate a package. -/
  | validate (path : Path) (options : ValidationOptions) (strict json : Bool)
  /-- To look for what can be improved in a package. -/
  | optimize (path : Path) (apply : Bool)
  /-- To scan sources for patterns. -/
  | patterns (path : Path) (threshold : Severity) (showPositives strict : Bool)
  /-- To decide what to read for a task. -/
  | route (task : String) (caseStudies : Option Path)
  /-- To serve requests. -/
  | serve
  deriving DecidableEq, Repr

/-- A request. -/
structure Request where
  /-- The name of the command. -/
  name : String
  /-- The command. -/
  command : Command
  /-- Everything is logged. -/
  verbose : Bool := false
  /-- The place of the configuration. -/
  configuration : Option Path := none
  deriving DecidableEq, Repr

/-! ### The options -/

/-- The option for help. -/
def helpOption : OptionSpec := { names := ["-h", "--help"], key := "help", kind := .help }

/-- The option for a log with everything. -/
def verboseOption : OptionSpec := { names := ["-v", "--verbose"], key := "verbose" }

/-- An option that is there or not. -/
def flagOption (key : String) : OptionSpec := { names := ["--" ++ key], key }

/-- An option that takes a word, one of the choices if there are any. -/
def wordOption (key : String) (choices : List String) : OptionSpec :=
  { names := ["--" ++ key], key, kind := .word choices }

/-- The name of the program. -/
def program : String := "spmsift"

/-- The grammar of a command. -/
def commandGrammar (name : String) (options : List OptionSpec) (operand : Operand) : Grammar where
  program := s!"{program} {name}"
  options := [helpOption, verboseOption] ++ options
  operand := operand

/-- The commands and their options. -/
def commands : List (String × Grammar) :=
  [("analyze", [flagOption "json", flagOption "hang-detection"], Operand.optional "path"),
    ("parse",
      [{ names := ["-f", "--format"], key := "format",
         kind := .word (OutputFormat.all.map (·.name)) },
        wordOption "target" [], flagOption "raw"], .nothing),
    ("validate",
      [flagOption "deep", flagOption "check-resolved", flagOption "flag-branch-deps",
        flagOption "macro-diagnostics", flagOption "tca-patterns", flagOption "strict",
        flagOption "json"], .optional "path"),
    ("optimize", [flagOption "apply"], .optional "path"),
    ("tca-patterns",
      [wordOption "severity" ["error", "warning", "info"], flagOption "show-positives",
        flagOption "strict"], .optional "path"),
    ("reading-router", [wordOption "case-studies" []], .required "task"),
    ("serve", [wordOption "host" [], { names := ["--port"], key := "port", kind := .number }],
      .nothing)].map fun entry =>
    (entry.1, commandGrammar entry.1 entry.2.1 entry.2.2)

/-- The grammar of the program: its own options, and a command. -/
def grammar : Grammar where
  program := program
  options := [helpOption, verboseOption, wordOption "config" []]
  operand := .command "command" (commands.map (·.1))

/-! ### Requests -/

/-- Settings, the latest first. -/
abbrev Settings := List (String × String)

namespace Settings

/-- The setting is there. -/
def has (settings : Settings) (key : String) : Bool := (settings.lookup key).isSome

/-- The path of a setting, the directory at hand where there is none. -/
def path (settings : Settings) : Path := .ofText ((settings.lookup "path").getD ".")

end Settings

/-- The command of a name with its settings. -/
def Command.ofSettings (name : String) (settings : Settings) : Command :=
  let has := settings.has
  match name with
  | "analyze" => .analyze settings.path (has "json") (has "hang-detection")
  | "parse" =>
    .parse (.ofName ((settings.lookup "format").getD "")) (settings.lookup "target") (has "raw")
  | "validate" =>
    .validate settings.path {
      deep := has "deep"
      checksResolved := has "check-resolved"
      flagsBranches := has "flag-branch-deps"
      checksMacros := has "macro-diagnostics"
      checksSources := has "tca-patterns" } (has "strict") (has "json")
  | "optimize" => .optimize settings.path (has "apply")
  | "tca-patterns" =>
    .patterns settings.path (.ofName ((settings.lookup "severity").getD Severity.warning.name))
      (has "show-positives") (has "strict")
  | "reading-router" =>
    .route ((settings.lookup "task").getD "") ((settings.lookup "case-studies").map Path.ofText)
  | _ => .serve

/-- The request that settings of the program and of a command make. -/
def Request.ofSettings (name : String) (own settings : Settings) : Request where
  name
  command := .ofSettings name settings
  verbose := own.has "verbose" || settings.has "verbose"
  configuration := (own.lookup "config").map Path.ofText

/-- Reads the request that arguments make. Nothing may be left over. -/
def Request.read (arguments : List String) : Except Stop Request := do
  let own ← grammar.read arguments
  let (name, arguments) := own.command.getD ("", [])
  let reading ← ((commands.lookup name).getD grammar).read arguments
  let extras := own.extras ++ reading.extras
  if extras.isEmpty then return .ofSettings name own.settings reading.settings
  else throw (.misuse program ("unrecognized arguments: " ++ Text.joinWith " " extras))

end PackageLint.CommandLine
