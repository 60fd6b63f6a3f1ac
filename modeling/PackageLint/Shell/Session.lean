import PackageLint.File.Tree
import PackageLint.Number.Decimal
import PackageLint.Shell.Script
import PackageLint.Text.Digit
import PackageLint.Text.Glob

/-!
# Running scripts

A session is the state of a script that runs: what it has written to its two channels, the status
of its last command, how long it has slept, and whether it is at its end. A session that is at its
end is not changed by anything that follows. Like the scripts themselves it stands for a process in
the outer layer of the program, and nothing that is proved of the commands depends on it.

## Main results

* `Session.run_of_ending`: no script changes a session that is at its end.
-/

namespace PackageLint.Shell

open Text (encodeUtf8)

/-- How a script ended. -/
inductive Ending
  /-- With the status of its last command. -/
  | exited
  /-- By a signal. -/
  | killed
  /-- Because its time was over. -/
  | outOfTime
  deriving DecidableEq, Repr

/-- A script that runs. -/
structure Session where
  /-- The files. -/
  disk : Disk
  /-- The directory that it runs in. -/
  directory : Path
  /-- What parameters stand for. -/
  values : Values
  /-- The number of seconds that it may take. -/
  timeout : Option Binary64 := none
  /-- What it has written, in order. -/
  written : List (Channel × List UInt8) := []
  /-- How many seconds it has slept. -/
  elapsed : Binary64 := .zero
  /-- How it ended, if it did. -/
  ending : Option Ending := none

/-- What a command writes and its status. -/
structure Outcome where
  /-- What it writes. -/
  written : List (Channel × List UInt8) := []
  /-- Its status. -/
  status : Nat := 0

namespace Outcome

/-- A command that writes a text. -/
def output (s : String) : Outcome := { written := [(.output, encodeUtf8 s)] }

/-- A command that fails with a line on the side. -/
def failure (status : Nat) (line : String) : Outcome :=
  { written := [(.errors, encodeUtf8 (line ++ "\n"))], status }

end Outcome

/-! ### Writing -/

/-- The value of an octal digit. -/
def octal? (c : Char) : Option Nat := if '0' ≤ c ∧ c ≤ '7' then some (c.toNat - 48) else none

/-- Reads at most `count` octal digits. -/
def readOctal : (count value : Nat) → List Char → Nat × List Char
  | 0, value, cs => (value, cs)
  | _ + 1, value, [] => (value, [])
  | count + 1, value, c :: rest =>
    match octal? c with
    | some d => readOctal count (8 * value + d) rest
    | none => (value, c :: rest)

theorem length_readOctal_le (count value : Nat) (cs : List Char) :
    (readOctal count value cs).2.length ≤ cs.length := by
  fun_induction readOctal count value cs <;> simp_all
  omega

/-- The byte that a letter behind a backslash stands for. -/
def escapedByte? (c : Char) : Option UInt8 :=
  match c with
  | 'a' => some 7
  | 'b' => some 8
  | 'f' => some 12
  | 'n' => some 10
  | 'r' => some 13
  | 't' => some 9
  | 'v' => some 11
  | '\\' => some 92
  | _ => none

/-- The bytes of a text whose backslashes stand for other characters. Nothing follows a `\c`. -/
def unescape : List Char → List UInt8
  | [] => []
  | '\\' :: 'c' :: _ => []
  | '\\' :: '0' :: rest =>
    (readOctal 3 0 rest).1.toUInt8 :: unescape (readOctal 3 0 rest).2
  | '\\' :: c :: rest =>
    match escapedByte? c with
    | some byte => byte :: unescape rest
    | none => 92 :: (encodeUtf8 c.toString ++ unescape rest)
  | c :: rest => encodeUtf8 c.toString ++ unescape rest
termination_by cs => cs.length
decreasing_by
  · exact Nat.lt_succ_of_le (Nat.le_succ_of_le (length_readOctal_le 3 0 rest))
  · exact Nat.lt_succ_of_le (Nat.le_succ rest.length)
  · exact Nat.lt_succ_of_le (Nat.le_succ rest.length)
  · exact Nat.lt_succ_self rest.length

/-- Writes its arguments on one line. -/
def echo (arguments : List String) : Outcome :=
  let text := match arguments with
    | "-n" :: words => Text.joinWith " " words
    | words => Text.joinWith " " words ++ "\n"
  { written := [(.output, unescape text.toList)] }

/-- Writes a pattern once, and tells which arguments are left. -/
def printOnce (arguments : List String) : List Char → List UInt8 × List String
  | [] => ([], arguments)
  | '%' :: '%' :: rest =>
    let (bytes, left) := printOnce arguments rest
    (37 :: bytes, left)
  | '%' :: _ :: rest =>
    let (bytes, left) := printOnce arguments.tail rest
    (encodeUtf8 (arguments.headD "") ++ bytes, left)
  | '\\' :: c :: rest =>
    match octal? c with
    | some _ =>
      let (value, after) := readOctal 3 0 (c :: rest)
      have := length_readOctal_le 3 0 (c :: rest)
      if after.length ≤ rest.length then
        let (bytes, left) := printOnce arguments after
        (value.toUInt8 :: bytes, left)
      else ([], arguments)
    | none =>
      let (bytes, left) := printOnce arguments rest
      match escapedByte? c with
      | some byte => (byte :: bytes, left)
      | none => (92 :: (encodeUtf8 c.toString ++ bytes), left)
  | c :: rest =>
    let (bytes, left) := printOnce arguments rest
    (encodeUtf8 c.toString ++ bytes, left)
termination_by cs => cs.length
decreasing_by all_goals simp_all <;> omega

/-- Writes a pattern again as long as it uses up arguments; `fuel` bounds the repetitions. -/
def printAll (pattern : List Char) : (fuel : Nat) → List String → List UInt8
  | 0, _ => []
  | fuel + 1, arguments =>
    let (bytes, left) := printOnce arguments pattern
    -- A pattern that uses up no argument is not written again.
    if left.isEmpty || left.length = arguments.length then bytes
    else bytes ++ printAll pattern fuel left

/-- Writes arguments after a pattern. -/
def printf (script : String) : List String → Outcome
  | [] => .failure 2 s!"{script}: 1: printf: usage: printf format [arg ...]"
  | pattern :: arguments =>
    { written := [(.output, printAll pattern.toList (arguments.length + 1) arguments)] }

/-! ### Other commands -/

namespace Session

/-- The path that a word means. -/
def path (session : Session) (s : String) : Path := session.directory ++ Path.ofText s

/-- Writes the contents of a file. -/
def showFile (session : Session) (name : String) : Outcome :=
  match session.disk.readBytes (session.path name) with
  | .ok bytes => { written := [(.output, bytes)] }
  | .error fault =>
    let reason := match fault with
      | .missing => "No such file or directory"
      | .notDirectory => "Not a directory"
      | .isDirectory => "Is a directory"
      | .denied => "Permission denied"
    .failure 1 s!"cat: {name}: {reason}"

/-- Writes the contents of files. -/
def showFiles (session : Session) (names : List String) : Outcome :=
  let outcomes := names.map session.showFile
  { written := outcomes.flatMap (·.written), status := (outcomes.map (·.status)).foldl max 0 }

/-- A condition holds. -/
def holds (session : Session) : List String → Bool
  | ["-f", name] => session.disk.isFile (session.path name)
  | ["-d", name] => session.disk.isDirectory (session.path name)
  | ["-e", name] => session.disk.has (session.path name)
  | ["-z", s] => s.isEmpty
  | ["-n", s] => !s.isEmpty
  | [s] => !s.isEmpty
  | [s, "=", t] => s = t
  | [s, "!=", t] => s ≠ t
  | _ => false

/-- The status of a condition. -/
def test (session : Session) (words : List String) : Outcome :=
  { status := if session.holds words then 0 else 1 }

/-- The session at its end. -/
def finish (session : Session) (ending : Ending) : Session :=
  { session with ending := some ending }

/-- The session with another status. -/
def withStatus (session : Session) (status : Nat) : Session :=
  { session with values := { session.values with status } }

/-- Time passes, perhaps more than there is. -/
def sleep (session : Session) (seconds : Binary64) : Session :=
  let elapsed := session.elapsed.add seconds
  let session := { session with elapsed }.withStatus 0
  -- The time is over when nothing of it is left.
  if session.timeout.any fun limit => !(limit.add elapsed.neg).isPositive then
    session.finish .outOfTime
  else session

/-! ### Running -/

/-- Where a channel goes behind redirections, of which the later ones see the earlier. -/
def targetOf (redirections : List Redirection) (channel : Channel) : Option Channel :=
  (redirections.foldl
    (fun targets r =>
      let target := r.target.bind targets
      fun c => if c = r.source then target else targets c)
    some) channel

/-- The session behind a command that writes. -/
def accept (session : Session) (redirections : List Redirection) (outcome : Outcome) : Session :=
  let moved := outcome.written.filterMap fun (channel, bytes) =>
    (targetOf redirections channel).map fun target => (target, bytes)
  { session with written := session.written ++ moved }.withStatus outcome.status

/-- The number of seconds that a word means. -/
def secondsOf (s : String) : Binary64 :=
  (Binary64.read? s.toList).getD .zero

/-- What a command of the shell itself complains of. -/
def complaint (session : Session) (message : String) : String :=
  s!"{session.values.script}: 1: {message}"

/-- The end of the script, with the status of its last command or another one. -/
def exit (session : Session) (redirections : List Redirection) : List String → Session
  | [] => session.finish .exited
  | s :: _ =>
    match Text.natural? s.toList with
    | some status => (session.withStatus (status % 256)).finish .exited
    | none =>
      (session.accept redirections
        (.failure 2 (session.complaint s!"exit: Illegal number: {s}"))).finish .exited

/-- The session in another directory. -/
def enter (session : Session) (redirections : List Redirection) (s : String) : Session :=
  let directory := session.disk.resolve (session.path s)
  if session.disk.isDirectory directory then { session with directory }.withStatus 0
  else session.accept redirections (.failure 2 (session.complaint s!"cd: can't cd to {s}"))

/-- Runs a command that is known by name. -/
def runNamed (session : Session) (redirections : List Redirection) (name : String)
    (arguments : List String) : Session :=
  let answer := session.accept redirections
  match name with
  | "echo" => answer (echo arguments)
  | "printf" => answer (printf session.values.script arguments)
  | "cat" => answer (session.showFiles arguments)
  | "pwd" => answer (.output (session.directory.text ++ "\n"))
  | "true" | ":" => answer {}
  | "false" => answer { status := 1 }
  | "test" => answer (session.test arguments)
  | "[" => answer (session.test arguments.dropLast)
  | "sleep" => session.sleep (secondsOf (arguments.headD ""))
  | "exit" => session.exit redirections arguments
  | "cd" => session.enter redirections (arguments.headD "/")
  | "kill" =>
    if arguments.getLast? = some processNumber then session.finish .killed
    else answer { status := 1 }
  | name => answer (.failure 127 (session.complaint s!"{name}: not found"))

/-- Runs a command; one that is executed in the place of the script is its last. -/
def runWords (session : Session) (redirections : List Redirection) : List String → Session
  | [] => session.withStatus 0
  | ["exec"] => session.withStatus 0
  | "exec" :: name :: arguments =>
    -- The command takes the place of the script, so nothing runs behind it.
    let session := session.runNamed redirections name arguments
    { session with ending := session.ending.or (some .exited) }
  | name :: arguments => session.runNamed redirections name arguments

/-- Some pattern matches a text. -/
def matchesAny (values : Values) (patterns : List Word) (s : String) : Bool :=
  patterns.any fun pattern => Text.globMatches (pattern.text values).toList s.toList

/-- Runs a script. -/
def run (session : Session) : Script → Session
  | .nothing => session
  | .command words redirections =>
    if session.ending.isSome then session
    else session.runWords redirections (words.flatMap (Word.expand session.values))
  | .both first second => (session.run first).run second
  | .ifWell first second =>
    let session := session.run first
    if session.values.status = 0 then session.run second else session
  | .ifNot first second =>
    let session := session.run first
    if session.values.status = 0 then session else session.run second
  | .choice subject patterns branch otherwise =>
    if matchesAny session.values patterns (subject.text session.values) then session.run branch
    else session.run otherwise
  | .condition test branch otherwise =>
    let session := session.run test
    if session.values.status = 0 then session.run branch else session.run otherwise

/-- What was written to a channel. -/
def writtenTo (session : Session) (channel : Channel) : List UInt8 :=
  session.written.flatMap fun entry => if entry.1 = channel then entry.2 else []

/-- Everything that was written. -/
def everything (session : Session) : List UInt8 := session.written.flatMap (·.2)

/-- A session at its end is not changed. -/
theorem run_of_ending {session : Session} {ending : Ending} (h : session.ending = some ending)
    (script : Script) : session.run script = session := by
  induction script with
  | nothing => rfl
  | command words redirections => simp [run, h]
  | both first second ih₁ ih₂ => rw [run, ih₁, ih₂]
  | ifWell first second ih₁ ih₂ =>
    rw [run, ih₁]
    simp only [ih₂, ite_self]
  | ifNot first second ih₁ ih₂ =>
    rw [run, ih₁]
    simp only [ih₂, ite_self]
  | choice subject patterns branch otherwise ih₁ ih₂ =>
    rw [run]
    simp only [ih₁, ih₂, ite_self]
  | condition test branch otherwise ih₁ ih₂ ih₃ =>
    rw [run, ih₁]
    simp only [ih₂, ih₃, ite_self]

end Session

end PackageLint.Shell
