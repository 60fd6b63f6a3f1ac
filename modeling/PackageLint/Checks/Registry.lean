import PackageLint.Checks.Dependencies
import PackageLint.Checks.Macros
import PackageLint.Checks.Manifest
import PackageLint.Checks.Resolved
import PackageLint.Checks.SourcePatterns
import PackageLint.Document.Distinct
import PackageLint.Text.Case

/-!
# Finding checks

The checks that are at hand: those of this library in a fixed order, and behind them those that
plugins bring. Names are compared in lower case. A plugin that is not asked for, or whose name is
taken, is not loaded; one that cannot be loaded is passed over.

What a plugin does is not known. It may bring a kind of checks of which something is created that is
no check at all, and that is found out only when it is registered, where it ends the discovery. An
interruption of the whole program while a plugin is loaded is left aside.

## Main results

* `Found.wants_add`: a name is wanted until it is taken.
-/

namespace PackageLint.Checks

/-- The checks of this library, in their order. -/
def builtin : List Check := [manifest, dependencies, resolved, macros, sourcePatterns]

/-- What a plugin brings. -/
inductive Plugin.Offering
  /-- A check. -/
  | check (check : Check)
  /-- A kind of checks. Creating one gives a check, something else, or a failure. -/
  | kind (create : Except String (Option Check))
  /-- Something that is called. It makes a check, something else, or it fails. -/
  | maker (call : Except String (Option Check))
  /-- Anything else. -/
  | other

/-- A plugin: its name, and what loading it gives. -/
structure Plugin where
  /-- The name that the plugin is registered under. -/
  name : String
  /-- What it brings, or why it cannot be loaded. -/
  load : Except String Plugin.Offering

namespace Plugin

instance : Coe Check Offering := ⟨.check⟩

/-- The reason why something that is no check cannot be used. -/
def noCheck : String := "Analyzer entry point must be an Analyzer subclass or factory"

/-- What is made of what a plugin brings, or why it cannot be used. A kind of checks is trusted to
create a check; what something else makes is looked at. -/
def Offering.made : Offering → Except String (Option Check)
  | check c => .ok (some c)
  | kind create => create
  | maker call => call.bind fun made => made.elim (.error noCheck) fun c => .ok (some c)
  | other => .error noCheck

/-- What is made of a plugin, or why it cannot be used. -/
def made (plugin : Plugin) : Except String (Option Check) := plugin.load.bind (·.made)

end Plugin

/-- The name that a check is registered under. -/
def key (name : String) : String := Text.lowered name

/-- The checks that were found so far. -/
structure Found where
  /-- The names that are taken. -/
  taken : List String := []
  /-- The names that are still asked for; nothing where all checks are. -/
  missing : Option (List String)
  /-- The checks. -/
  checks : List Check := []

namespace Found

/-- A name is asked for and not taken. -/
def wants (found : Found) (name : String) : Bool :=
  !found.taken.contains (key name) && found.missing.all (·.contains (key name))

/-- The name is no longer missing. -/
def settle (found : Found) (name : String) : Found :=
  { found with missing := found.missing.map (·.filter (· ≠ key name)) }

/-- One more check under a name. -/
def add (found : Found) (name : String) (check : Check) : Found :=
  { found.settle name with
    taken := key name :: found.taken
    checks := found.checks ++ [check] }

/-- What was made under a name, if it is wanted; it has to be a check. -/
def offer (found : Found) (name : String) (made : Option Check) : Run Found :=
  if found.wants name then
    match made with
    | some check => return found.add name check
    | none => Run.fail (.noCheck name)
  else pure found

/-- The check of a plugin, if it is wanted. -/
def offerPlugin (found : Found) (plugin : Plugin) : Run Found :=
  if found.wants plugin.name then do
    Run.load plugin.name
    match plugin.made with
    | .ok made => found.offer plugin.name made
    -- What cannot be loaded is not asked for again, and is no unknown name either.
    | .error reason =>
      Run.log .error s!"Skipping analyzer plugin '{plugin.name}': {reason}"
      return found.settle plugin.name
  else pure found

/-- The checks of plugins, one after the other. -/
def offerPlugins (found : Found) : List Plugin → Run Found
  | [] => pure found
  | plugin :: rest => do (← found.offerPlugin plugin).offerPlugins rest

end Found

/-- The checks that are at hand, or those of them that are asked for by name. A name that nobody
knows is an error, and so is something under a name that is no check. -/
def discover (plugins : List Plugin) (enabled : Option (List String)) : Run (List Check) := do
  let found : Found := { missing := enabled.map fun names => distinct (names.map key) }
  let found ← builtin.foldlM (fun found check => found.offer check.name (some check)) found
  let found ← found.offerPlugins plugins
  match found.missing with
  | some (name :: rest) =>
    Run.fail (.unknownChecks ((name :: rest).mergeSort fun a b => a ≤ b))
  | _ => return found.checks

/-- The names that were wanted before a name was taken are so still, that name aside. -/
theorem Found.wants_add (found : Found) (name other : String) (check : Check) :
    (found.add name check).wants other = (found.wants other && key other ≠ key name) := by
  by_cases heq : key other = key name <;> cases hmissing : found.missing <;>
    simp [wants, add, settle, heq, hmissing]

end PackageLint.Checks
