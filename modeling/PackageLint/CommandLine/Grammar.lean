import PackageLint.Pattern.Reader
import PackageLint.Text.Digit
import PackageLint.Text.Quoted
import PackageLint.Text.Search

/-!
# Arguments of a command line

A grammar lists the options of a program and says what stands between them: nothing, one word that
may be missing or may not, or the name of a command that takes all that follows. Options with two
hyphens may be shortened as long as they stay unique and take their value behind an equals sign or
as the next word; options with one hyphen may be put together. Behind two hyphens alone everything
is a word. What the grammar has no place for is collected.

## Main results

* `classifyAll_hyphens`: behind double hyphens there are only words.
-/

namespace PackageLint.CommandLine

/-- What an option does. -/
inductive OptionKind
  /-- It asks for help. -/
  | help
  /-- It is there or not. -/
  | flag
  /-- It takes a word, one of the choices if there are any. -/
  | word (choices : List String)
  /-- It takes a whole number. -/
  | number
  deriving DecidableEq, Repr

/-- An option. -/
structure OptionSpec where
  /-- The names of the option. -/
  names : List String
  /-- The name of the setting. -/
  key : String
  /-- What the option does. -/
  kind : OptionKind := .flag
  deriving DecidableEq, Repr

/-- The option takes a word. -/
def OptionSpec.takesWord (option : OptionSpec) : Bool :=
  match option.kind with
  | .help | .flag => false
  | .word _ | .number => true

/-- What stands between the options. -/
inductive Operand
  /-- Nothing, or nothing more. -/
  | nothing
  /-- A word that may be missing. -/
  | optional (key : String)
  /-- A word that may not be missing. -/
  | required (key : String)
  /-- The name of a command, and what follows it. -/
  | command (key : String) (names : List String)
  deriving DecidableEq, Repr

/-- What a program takes on its command line. -/
structure Grammar where
  /-- The name of the program. -/
  program : String
  /-- The options. -/
  options : List OptionSpec
  /-- What stands between the options. -/
  operand : Operand := .nothing
  deriving DecidableEq, Repr

/-- Why reading came to a stop. -/
inductive Stop
  /-- Help was asked for. -/
  | help (grammar : Grammar)
  /-- The arguments make no sense. -/
  | misuse (program message : String)
  deriving DecidableEq, Repr

/-! ### Kinds of arguments -/

/-- An option that an argument names, and what stands behind the name in the same argument. -/
structure Match where
  /-- The option. -/
  option : OptionSpec
  /-- The name of the option in full. -/
  name : String
  /-- What stands behind the name. -/
  explicit : Option (List Char) := none
  /-- An equals sign stands between them. -/
  behindEquals : Bool := false
  deriving DecidableEq, Repr

/-- An argument. -/
inductive Item
  /-- A word. -/
  | word (s : String)
  /-- Two hyphens alone. -/
  | hyphens
  /-- An option, perhaps one that nobody knows. -/
  | option (s : String) (found : Option Match)
  deriving DecidableEq, Repr

/-- The argument itself. -/
def Item.text : Item → String
  | word s => s
  | hyphens => "--"
  | option s _ => s

/-- The argument is an option. -/
def Item.isOption : Item → Bool
  | option _ _ => true
  | _ => false

namespace Grammar

/-- The names of the options, in order. -/
def table (grammar : Grammar) : List (String × OptionSpec) :=
  grammar.options.flatMap fun option => option.names.map fun name => (name, option)

/-- The option of a name. -/
def option? (grammar : Grammar) (name : String) : Option OptionSpec := grammar.table.lookup name

/-- The text before an equals sign and the text behind it. -/
def cutAtEquals : List Char → List Char × Option (List Char)
  | [] => ([], none)
  | '=' :: rest => ([], some rest)
  | c :: rest =>
    let (before, after) := cutAtEquals rest
    (c :: before, after)

/-- The options that an argument with two hyphens may be short for. -/
def longMatches (grammar : Grammar) (cs : List Char) : List Match :=
  let (before, after) := cutAtEquals cs
  (grammar.table.filter fun entry => before.isPrefixOf entry.1.toList).map fun entry =>
    { option := entry.2, name := entry.1, explicit := after, behindEquals := after.isSome }

/-- The options that an argument with one hyphen may mean. -/
def shortMatches (grammar : Grammar) (cs : List Char) : List Match :=
  grammar.table.filterMap fun (name, option) =>
    if name.toList = cs.take 2 then some { option, name, explicit := some (cs.drop 2) }
    else if cs.isPrefixOf name.toList then some { option, name }
    else none

/-- The options that an argument may mean which is no name in full. -/
def candidates (grammar : Grammar) (cs : List Char) : List Match :=
  match cs with
  | '-' :: '-' :: _ => grammar.longMatches cs
  | _ => grammar.shortMatches cs

/-- The form of negative numbers, which are words. -/
def negativeNumber : String := "^-\\d+$|^-\\d*\\.\\d+$"

/-- An argument that starts with a hyphen and that no option fits. -/
def unknown (s : String) : Item :=
  if Pattern.occurs negativeNumber s.toList || s.toList.contains ' ' then .word s
  else .option s none

/-- The kind of an argument that stands before all double hyphens. -/
def classify (grammar : Grammar) (s : String) : Except String Item :=
  match s.toList with
  | [] | ['-'] => .ok (.word s)
  | '-' :: rest =>
    -- A name in full goes before everything that it might be short for.
    match grammar.option? s with
    | some option => .ok (.option s (some { option, name := s }))
    | none =>
      let (before, after) := cutAtEquals ('-' :: rest)
      let name := String.ofList before
      -- A name in full may have its word behind an equals sign.
      match after, grammar.option? name with
      | some text, some option =>
        .ok (.option s (some { option, name, explicit := some text, behindEquals := true }))
      | _, _ =>
        match grammar.candidates ('-' :: rest) with
        | [] => .ok (unknown s)
        | [found] => .ok (.option s (some found))
        | several =>
          let names := Text.joinWith ", " (several.map (·.name))
          .error s!"ambiguous option: {s} could match {names}"
  | _ => .ok (.word s)

/-- The kinds of arguments. -/
def classifyAll (grammar : Grammar) : List String → Except String (List Item)
  | [] => .ok []
  | s :: rest =>
    if s = "--" then .ok (.hyphens :: rest.map .word)
    else do
      let item ← grammar.classify s
      return item :: (← grammar.classifyAll rest)

/-! ### Options -/

/-- What an argument with options asks for. -/
structure Use where
  /-- Options with their words. -/
  actions : List (OptionSpec × String) := []
  /-- An option whose word is still to come, if it takes one. -/
  last : Option OptionSpec := none
  /-- What nobody knows. -/
  extra : Option String := none

/-- A complaint about an option. -/
def complaint (option : OptionSpec) (message : String) : String :=
  let names := Text.joinWith "/" option.names
  s!"argument {names}: {message}"

/-- What an option asks for that has text behind its name in the same argument: the text is its
word, or it is made of the letters of more options. -/
def useExplicit (grammar : Grammar) (option : OptionSpec) (isShort behindEquals : Bool)
    (cs : List Char) : Except String Use :=
  if option.takesWord then .ok { actions := [(option, .ofList cs)] }
  else
    let ignored := complaint option ("ignored explicit argument " ++ .ofList (Text.quotedChars cs))
    match cs with
    | [] => .error ignored
    | c :: rest =>
      -- Only names with one hyphen can be put together.
      if !isShort || behindEquals || c = '-' then .error ignored
      else match grammar.option? (.ofList ['-', c]) with
        | none => .ok { actions := [(option, "")], extra := some (.ofList ('-' :: c :: rest)) }
        | some next => do
          let use ← match rest with
            | [] => .ok { last := some next }
            | '=' :: text => useExplicit grammar next true true text
            | text => useExplicit grammar next true false text
          return { use with actions := (option, "") :: use.actions }
termination_by cs.length
decreasing_by
  all_goals simp only [List.length_cons]
  all_goals omega

/-- A name with one hyphen. -/
def isShortName (name : String) : Bool := name.toList.drop 1 |>.head? |>.any (· ≠ '-')

/-- What an argument with options asks for. -/
def useOf (grammar : Grammar) (found : Match) : Except String Use :=
  match found.explicit with
  | none => .ok { last := some found.option }
  | some cs => useExplicit grammar found.option (isShortName found.name) found.behindEquals cs

/-- The actions of an argument with options, and the arguments behind it and its word. -/
def actionsOf (grammar : Grammar) (found : Match) (rest : List Item) :
    Except String (List (OptionSpec × String) × List String × List Item) := do
  let use ← grammar.useOf found
  let extras := use.extra.toList
  match use.last with
  | none => return (use.actions, extras, rest)
  | some option =>
    if option.takesWord then
      -- The word of an option stands right behind it and is no option itself.
      match rest with
      | .word s :: rest => return (use.actions ++ [(option, s)], extras, rest)
      | _ => throw (complaint option "expected one argument")
    else return (use.actions ++ [(option, "")], extras, rest)

/-! ### Reading -/

/-- What was read so far. -/
structure Reading where
  /-- The settings, the latest first. -/
  settings : List (String × String) := []
  /-- The command and its arguments. -/
  command : Option (String × List String) := none
  /-- What there is no place for. -/
  extras : List String := []
  /-- What may still stand between the options. -/
  operand : Operand
  deriving DecidableEq, Repr

/-- Choices in words. -/
def choiceText (choices : List String) : String := Text.joinWith ", " (choices.map Text.quoted)

/-- What is said of a word that is none of the choices. -/
def choiceMessage (s : String) (choices : List String) : String :=
  "invalid choice: " ++ Text.quoted s ++ s!" (choose from {choiceText choices})"

/-- Carries out an option. -/
def act (grammar : Grammar) (reading : Reading) (option : OptionSpec) (s : String) :
    Except Stop Reading :=
  let accepted : Except Stop Reading :=
    .ok { reading with settings := (option.key, s) :: reading.settings }
  let refused (message : String) : Except Stop Reading :=
    .error (.misuse grammar.program (complaint option message))
  match option.kind with
  | .help => .error (.help grammar)
  | .flag => accepted
  | .word choices =>
    if choices.isEmpty || choices.contains s then accepted
    else refused (choiceMessage s choices)
  | .number =>
    if (Text.integer? s.toList).isSome then accepted
    else refused ("invalid int value: " ++ Text.quoted s)

/-- Carries out options one behind the other. -/
def actAll (grammar : Grammar) (reading : Reading) :
    List (OptionSpec × String) → Except Stop Reading
  | [] => .ok reading
  | (option, s) :: rest => do actAll grammar (← grammar.act reading option s) rest

/-- Takes a word from between the options; double hyphens around it are left out. -/
def takeWord : List Item → Option String × List Item
  | .hyphens :: .word s :: rest => (some s, rest)
  | .word s :: .hyphens :: rest => (some s, rest)
  | .word s :: rest => (some s, rest)
  | .hyphens :: rest => (none, rest)
  | items => (none, items)

/-- Takes what may stand between the options, if it stands there. -/
def takeOperand (grammar : Grammar) (reading : Reading) (items : List Item) :
    Except Stop (Reading × List Item) :=
  match reading.operand with
  | .nothing => .ok (reading, items)
  | .optional key =>
    let (found, rest) := takeWord items
    .ok ({ reading with
      settings := (found.map fun s => (key, s)).toList ++ reading.settings
      operand := .nothing }, rest)
  | .required key =>
    match takeWord items with
    | (some s, rest) =>
      .ok ({ reading with settings := (key, s) :: reading.settings, operand := .nothing }, rest)
    | (none, _) => .ok (reading, items)
  | .command key names =>
    match takeWord items with
    | (none, _) => .ok (reading, items)
    | (some _, _) =>
      -- The command takes everything that follows, options and double hyphens too.
      match items.map Item.text with
      | [] => .ok (reading, items)
      | name :: arguments =>
        if names.contains name then
          .ok ({ reading with command := some (name, arguments), operand := .nothing }, [])
        else .error (.misuse grammar.program s!"argument {key}: {choiceMessage name names}")

/-- Reads the arguments up to the last option and then the others; `fuel` bounds their number. -/
def readItems (grammar : Grammar) : (fuel : Nat) → Reading → List Item → Except Stop Reading
  | 0, reading, _ => .ok reading
  | fuel + 1, reading, items =>
    match items.span (!·.isOption) with
    -- No option is left.
    | (_, []) => do
      let (reading, rest) ← grammar.takeOperand reading items
      return { reading with extras := reading.extras ++ rest.map Item.text }
    | ([], .option s none :: rest) =>
      grammar.readItems fuel { reading with extras := reading.extras ++ [s] } rest
    | ([], .option _ (some found) :: rest) => do
      let (actions, extras, rest) ←
        (grammar.actionsOf found rest).mapError (.misuse grammar.program)
      let reading ← grammar.actAll { reading with extras := reading.extras ++ extras } actions
      grammar.readItems fuel reading rest
    -- Words stand in front of the next option. What the operand does not take has no place.
    | (before, rest) => do
      let (taken, others) ← grammar.takeOperand reading items
      if others.length < items.length then grammar.readItems fuel taken others
      else
        let extras := taken.extras ++ before.map Item.text
        grammar.readItems fuel { taken with extras } rest

/-- What is said where a word is missing. -/
def missing? : Operand → Option String
  | .required key | .command key _ => some s!"the following arguments are required: {key}"
  | _ => none

/-- Reads arguments. -/
def read (grammar : Grammar) (arguments : List String) : Except Stop Reading := do
  let items ← (grammar.classifyAll arguments).mapError (.misuse grammar.program)
  let reading ← grammar.readItems (2 * items.length + 1) { operand := grammar.operand } items
  match missing? reading.operand with
  | some message => throw (.misuse grammar.program message)
  | none => return reading

/-- Behind double hyphens there are only words. -/
theorem classifyAll_hyphens (grammar : Grammar) (arguments : List String) :
    grammar.classifyAll ("--" :: arguments) = .ok (.hyphens :: arguments.map .word) := by
  simp [classifyAll]

end Grammar

end PackageLint.CommandLine
