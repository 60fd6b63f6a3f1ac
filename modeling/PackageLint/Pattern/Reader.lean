import PackageLint.Pattern.Basic
import PackageLint.Json.Reader

/-!
# Reading patterns

The text of a regular expression is cut into tokens, a backslash with its character being one of
them, and read by recursive descent. A text that is no pattern fails with the fault that was met
first. References to earlier groups, conditions on them, characters by name and looking behind are
not part of the language, and count as faults; statements about rules take the faults of patterns as
they are given instead (`Languages`).
-/

namespace PackageLint.Pattern

open Text

/-- What is wrong with a text that is no pattern. -/
inductive Fault
  /-- A backslash ends the text, or is followed by something that has no meaning. -/
  | escape
  /-- A character class has no end. -/
  | openClass
  /-- The ends of a range are in the wrong order or are no single characters. -/
  | range
  /-- There is nothing that could be repeated. -/
  | nothingToRepeat
  /-- A repetition is repeated. -/
  | multipleRepeat
  /-- The bounds of a repetition are in the wrong order. -/
  | repeatBounds
  /-- A group has no end. -/
  | openGroup
  /-- A group ends that never began. -/
  | unbalanced
  /-- The name of a group is missing, ill-formed or used twice. -/
  | groupName
  /-- The options of a group are ill-formed or stand in the wrong place. -/
  | options
  /-- The question mark behind a parenthesis is followed by something that has no meaning. -/
  | extension
  /-- A reference to an earlier group, a condition on one, or looking behind. -/
  | unsupported
  /-- A bound of a repetition is too large. -/
  | tooOften
  /-- Options for the whole pattern ask for ASCII only and for all characters. -/
  | alphabets
  deriving DecidableEq, Repr

/-- The wording of a fault. -/
def Fault.message : Fault → String
  | escape => "bad escape"
  | openClass => "unterminated character set"
  | range => "bad character range"
  | nothingToRepeat => "nothing to repeat"
  | multipleRepeat => "multiple repeat"
  | repeatBounds => "min repeat greater than max repeat"
  | openGroup => "missing ), unterminated subpattern"
  | unbalanced => "unbalanced parenthesis"
  | groupName => "bad character in group name"
  | options => "bad inline flags"
  | extension => "unknown extension"
  | unsupported => "invalid group reference"
  | tooOften => "the repetition number is too large"
  | alphabets => "ASCII and UNICODE flags are incompatible"

/-- The text of the pattern is well-formed, but asks for what there is not. Whoever passes over
texts that are ill-formed does not pass over these. -/
def Fault.isFatal : Fault → Bool
  | tooOften | alphabets => true
  | _ => false

/-- One token of a pattern. -/
inductive Token
  /-- A character by itself. -/
  | plain (c : Char)
  /-- A character behind a backslash. -/
  | escaped (c : Char)
  deriving DecidableEq, Repr

/-- The tokens of a pattern. -/
def tokens : List Char → Except Fault (List Token)
  | [] => .ok []
  | ['\\'] => .error .escape
  | '\\' :: c :: rest => (tokens rest).map (.escaped c :: ·)
  | c :: rest => (tokens rest).map (.plain c :: ·)

/-- The ways in which characters and places are compared. -/
structure Mode where
  /-- Upper and lower case are not told apart. -/
  ignoreCase : Bool := false
  /-- The start and the end of every line count. -/
  anyLine : Bool := false
  /-- A point stands for a line feed, too. -/
  newlineToo : Bool := false
  /-- Named classes hold characters of ASCII only. -/
  asciiOnly : Bool := false
  /-- Blanks and comments in the pattern are passed over. -/
  verbose : Bool := false

/-- What the reader knows of the groups read so far. -/
structure Groups where
  /-- The names given to groups. -/
  names : List (List Char) := []
  /-- The letters of the options for the whole pattern. -/
  options : List Char := []

/-- What an item of a sequence is to the repetition behind it. -/
inductive ItemKind
  /-- A place, which cannot be repeated. -/
  | place
  /-- A repetition, which cannot be repeated again. -/
  | repetition
  /-- Anything else. -/
  | other
  deriving DecidableEq, Repr

/-- Up to `count` plain characters that satisfy a test, and the rest. -/
def takePlain (test : Char → Bool) : (count : Nat) → List Token → List Char × List Token
  | count + 1, .plain c :: rest =>
    if test c then
      let (cs, rest) := takePlain test count rest
      (c :: cs, rest)
    else ([], .plain c :: rest)
  | _, toks => ([], toks)

/-- Exactly `count` hexadecimal digits as a code point, and the rest. -/
def takeHex (count : Nat) (toks : List Token) : Except Fault (Nat × List Token) :=
  let (ds, rest) := takePlain (fun c => (Json.hexValue? c).isSome) count toks
  match Json.hexNumber? ds with
  | some n => if ds.length = count ∧ n < 0x110000 then .ok (n, rest) else .error .escape
  | none => .error .escape

/-- A digit below eight. -/
def isOctal (c : Char) : Bool := '0' ≤ c && c ≤ '7'

/-- The number that octal digits write. -/
def octalValue (ds : List Char) : Nat := ds.foldl (fun n d => 8 * n + (d.toNat - 0x30)) 0

/-- The control character that a letter behind a backslash stands for. -/
def controlEscape? : Char → Option Nat
  | 'a' => some 7
  | 'f' => some 12
  | 'n' => some 10
  | 'r' => some 13
  | 't' => some 9
  | 'v' => some 11
  | '\\' => some 0x5C
  | _ => none

/-- The named class that a letter behind a backslash stands for. -/
def groupEscape? : Char → Option ClassItem
  | 'd' => some (.group .digit false)
  | 'D' => some (.group .digit true)
  | 's' => some (.group .blank false)
  | 'S' => some (.group .blank true)
  | 'w' => some (.group .word false)
  | 'W' => some (.group .word true)
  | _ => none

/-- The code point of an escape that is written with digits. -/
def codeEscape (c : Char) (rest : List Token) : Except Fault (Nat × List Token) :=
  if c = 'x' then takeHex 2 rest
  else if c = 'u' then takeHex 4 rest
  else if c = 'U' then takeHex 8 rest
  else if c.isAlphanum then .error .escape
  else .ok (c.toNat, rest)

/-- The part of a class that an escape inside brackets stands for. -/
def classEscape (c : Char) (rest : List Token) : Except Fault (ClassItem × List Token) :=
  match controlEscape? c, groupEscape? c with
  | some code, _ => .ok (.one code, rest)
  | _, some item => .ok (item, rest)
  | none, none =>
    if c = 'b' then .ok (.one 8, rest)
    else if isOctal c then
      let (ds, rest) := takePlain isOctal 2 rest
      let code := octalValue (c :: ds)
      if code ≤ 0o377 then .ok (.one code, rest) else .error .escape
    else (codeEscape c rest).map fun p => (.one p.1, p.2)

/-- One item of a class before a possible hyphen. -/
def classItem (tok : Token) (rest : List Token) : Except Fault (ClassItem × List Token) :=
  match tok with
  | .plain c => .ok (.one c.toNat, rest)
  | .escaped c => classEscape c rest

/-- The items of a class up to its closing bracket, which does not count as one before the first
item; `fuel` bounds their number. -/
def readClass : (fuel : Nat) → (first : Bool) → List Token →
    Except Fault (List ClassItem × List Token)
  | 0, _, _ | _, _, [] => .error .openClass
  | fuel + 1, first, tok :: rest =>
    if tok = .plain ']' ∧ !first then .ok ([], rest)
    else do
      let (low, rest) ← classItem tok rest
      match rest with
      | .plain '-' :: [] => throw .openClass
      -- A hyphen at the end of a class stands for itself.
      | .plain '-' :: .plain ']' :: rest => return ([low, .one '-'.toNat], rest)
      | .plain '-' :: tok :: rest =>
        let (high, rest) ← classItem tok rest
        match low, high with
        | .one low, .one high =>
          if high < low then throw .range
          let (items, rest) ← readClass fuel false rest
          return (.range low high :: items, rest)
        | _, _ => throw .range
      | rest =>
        let (items, rest) ← readClass fuel false rest
        return (low :: items, rest)

/-- The class with one item. -/
def single (mode : Mode) (item : ClassItem) : Pattern :=
  .chars ⟨false, [item], mode.ignoreCase, mode.asciiOnly⟩

/-- The item that an escape outside of brackets stands for. -/
def escapeItem (mode : Mode) (c : Char) (rest : List Token) :
    Except Fault ((Pattern × ItemKind) × List Token) :=
  match controlEscape? c, groupEscape? c with
  | some code, _ => .ok ((single mode (.one code), .other), rest)
  | _, some item => .ok ((single mode item, .other), rest)
  | none, none =>
    match c with
    | 'A' => .ok ((.lineStart false, .place), rest)
    | 'Z' => .ok ((.textEnd, .place), rest)
    | 'b' => .ok ((.wordEdge false mode.asciiOnly, .place), rest)
    | 'B' => .ok ((.wordEdge true mode.asciiOnly, .place), rest)
    | '0' =>
      let (ds, rest) := takePlain isOctal 2 rest
      .ok ((single mode (.one (octalValue ds)), .other), rest)
    | c =>
      if c.isDigit then
        let (ds, rest) := takePlain isOctal 2 rest
        if isOctal c ∧ ds.length = 2 then
          if octalValue (c :: ds) ≤ 0o377 then
            .ok ((single mode (.one (octalValue (c :: ds))), .other), rest)
          else .error .escape
        else .error .unsupported
      else (codeEscape c rest).map fun p => ((single mode (.one p.1), .other), p.2)

/-- The bounds of a repetition behind its opening brace, `none` where the brace stands for
itself. -/
def readBounds (toks : List Token) : Option ((Option Nat × Option Nat) × List Token) :=
  let value (ds : List Char) := if ds.isEmpty then none else some (Json.asciiValue ds)
  match toks with
  -- Braces with nothing between them stand for themselves.
  | .plain '\x7d' :: _ => none
  | toks =>
    let (low, rest) := takePlain Char.isDigit toks.length toks
    match rest with
    | .plain '\x7d' :: rest => some ((value low, value low), rest)
    | .plain ',' :: rest =>
      let (high, rest) := takePlain Char.isDigit rest.length rest
      match rest with
      | .plain '\x7d' :: rest => some ((value low, value high), rest)
      | _ => none
    | _ => none

/-- The bounds of the repetition that starts with a character, `none` where it starts none. -/
def quantifier? (c : Char) (rest : List Token) :
    Option ((Option Nat × Option Nat) × List Token) :=
  match c with
  | '*' => some ((none, none), rest)
  | '+' => some ((some 1, none), rest)
  | '?' => some ((none, some 1), rest)
  | '\x7b' => readBounds rest
  | _ => none

/-- The least number that is too large to bound a repetition. -/
def boundLimit : Nat := 0xFFFFFFFF

/-- The last item of a sequence, repeated; items are held in reverse order. -/
def repeatLast (bounds : Option Nat × Option Nat) (items : List (Pattern × ItemKind))
    (rest : List Token) : Except Fault (List (Pattern × ItemKind) × List Token) := do
  let least := bounds.1.getD 0
  if bounds.1.any (boundLimit ≤ ·) || bounds.2.any (boundLimit ≤ ·) then throw .tooOften
  if bounds.2.any (· < least) then throw .repeatBounds
  match items with
  | [] | (_, .place) :: _ => throw .nothingToRepeat
  | (_, .repetition) :: _ => throw .multipleRepeat
  | (body, .other) :: others =>
    -- Whether a repetition is short or long makes no difference to what is found.
    let (possessive, rest) := match rest with
      | .plain '?' :: rest => (false, rest)
      | .plain '+' :: rest => (true, rest)
      | rest => (false, rest)
    return ((.loop least bounds.2 possessive body, .repetition) :: others, rest)

/-- A sequence of items that are held in reverse order. -/
def sequence (items : List (Pattern × ItemKind)) : Pattern :=
  items.foldl (fun later item => match later with
    | .empty => item.1
    | later => .seq item.1 later) .empty

/-- The name of a group up to a closing character, and the rest. -/
def takeName (closing : Char) (toks : List Token) : Except Fault (List Char × List Token) :=
  let (name, rest) := takePlain (· != closing) toks.length toks
  match rest with
  | .plain _ :: rest =>
    let wellFormed := name.all isWordChar && name.head?.any (!isDigit ·)
    if wellFormed then .ok (name, rest) else .error .groupName
  | _ => .error .groupName

/-- The tokens behind a comment. -/
def skipComment : List Token → Except Fault (List Token)
  | [] => .error .openGroup
  | .plain ')' :: rest => .ok rest
  | _ :: rest => skipComment rest

/-- Options in front of a colon or a closing parenthesis, with a hyphen before those that are
turned off; `seen` holds the letters read so far in reverse order. -/
def takeOptions (seen : List Char) : List Token → Except Fault (List Char × Char × List Token)
  | .plain c :: rest =>
    if c = ')' ∨ c = ':' then .ok (seen.reverse, c, rest)
    else if "imsxau".toList.contains c ∨ (c = '-' ∧ !seen.contains '-') then
      takeOptions (c :: seen) rest
    else .error .options
  | _ => .error .options

/-- The mode with the option of a letter turned on or off. -/
def Mode.set (on : Bool) (mode : Mode) (letter : Char) : Mode :=
  match letter with
  | 'i' => { mode with ignoreCase := on }
  | 'm' => { mode with anyLine := on }
  | 's' => { mode with newlineToo := on }
  | 'x' => { mode with verbose := on }
  | 'a' => { mode with asciiOnly := on }
  | 'u' => { mode with asciiOnly := !on }
  | _ => mode

/-- The mode that options lead to. -/
def Mode.apply (mode : Mode) (options : List Char) : Except Fault Mode :=
  let on := options.takeWhile (· != '-')
  let off := (options.dropWhile (· != '-')).drop 1
  let clash := on.any off.contains || (on.contains 'a' && on.contains 'u')
  let empty := options.contains '-' && off.isEmpty
  if clash || empty || off.any (fun c => c = 'a' || c = 'u') then .error .options
  else .ok (off.foldl (Mode.set false) (on.foldl (Mode.set true) mode))

mutual

/-- Alternatives up to a closing parenthesis or the end. `top` says that no group is open. -/
def readAlternatives (fuel : Nat) (top : Bool) (mode : Mode) (groups : Groups)
    (toks : List Token) : Except Fault (Pattern × Groups × List Token) :=
  match fuel with
  | 0 => .error .openGroup
  | fuel + 1 => do
    let (first, mode, groups, rest) ← readSequence fuel top mode groups [] toks
    match rest with
    | .plain '|' :: rest => readOthers fuel mode groups first rest
    | rest => return (first, groups, rest)

/-- The alternatives behind the first one. -/
def readOthers (fuel : Nat) (mode : Mode) (groups : Groups) (before : Pattern)
    (toks : List Token) : Except Fault (Pattern × Groups × List Token) :=
  match fuel with
  | 0 => .error .openGroup
  | fuel + 1 => do
    let (next, _, groups, rest) ← readSequence fuel false mode groups [] toks
    match rest with
    | .plain '|' :: rest => readOthers fuel mode groups (.either before next) rest
    | rest => return (.either before next, groups, rest)

/-- A sequence of items up to a bar, a closing parenthesis or the end. Options for the whole
pattern may stand before the first item where `leading` holds. -/
def readSequence (fuel : Nat) (leading : Bool) (mode : Mode) (groups : Groups)
    (items : List (Pattern × ItemKind)) (toks : List Token) :
    Except Fault (Pattern × Mode × Groups × List Token) :=
  match fuel with
  | 0 => .error .openGroup
  | fuel + 1 =>
    match toks with
    | [] | .plain '|' :: _ | .plain ')' :: _ => .ok (sequence items, mode, groups, toks)
    | .escaped c :: rest => do
      let (item, rest) ← escapeItem mode c rest
      readSequence fuel leading mode groups (item :: items) rest
    | .plain '[' :: rest => do
      let (complement, rest) := match rest with
        | .plain '^' :: rest => (true, rest)
        | rest => (false, rest)
      let (set, rest) ← readClass (rest.length + 1) true rest
      let item := Pattern.chars ⟨complement, set, mode.ignoreCase, mode.asciiOnly⟩
      readSequence fuel leading mode groups ((item, .other) :: items) rest
    | .plain '.' :: rest =>
      readSequence fuel leading mode groups ((.anyChar mode.newlineToo, .other) :: items) rest
    | .plain '^' :: rest =>
      readSequence fuel leading mode groups ((.lineStart mode.anyLine, .place) :: items) rest
    | .plain '$' :: rest =>
      readSequence fuel leading mode groups ((.lineEnd mode.anyLine, .place) :: items) rest
    | .plain '(' :: .plain '?' :: rest => readExtension fuel leading mode groups items rest
    | .plain '(' :: rest => do
      let (body, groups, rest) ← readAlternatives fuel false mode groups rest
      closeGroup fuel leading mode groups items (body, .other) rest
    | .plain c :: rest =>
      if mode.verbose && CharGroup.blank.holds true c then
        readSequence fuel leading mode groups items rest
      else if mode.verbose && c = '#' then
        readSequence fuel leading mode groups items ((rest.dropWhile (· != .plain '\n')).drop 1)
      else match quantifier? c rest with
        | some (bounds, rest) => do
          let (items, rest) ← repeatLast bounds items rest
          readSequence fuel leading mode groups items rest
        | none =>
          readSequence fuel leading mode groups ((single mode (.one c.toNat), .other) :: items) rest

/-- A group whose parenthesis is followed by a question mark. -/
def readExtension (fuel : Nat) (leading : Bool) (mode : Mode) (groups : Groups)
    (items : List (Pattern × ItemKind)) (toks : List Token) :
    Except Fault (Pattern × Mode × Groups × List Token) :=
  match fuel with
  | 0 => .error .openGroup
  | fuel + 1 =>
    match toks with
    | .plain 'P' :: .plain '<' :: rest => do
      let (name, rest) ← takeName '>' rest
      if groups.names.contains name then throw .groupName
      let (body, groups, rest) ←
        readAlternatives fuel false mode { groups with names := name :: groups.names } rest
      closeGroup fuel leading mode groups items (body, .other) rest
    | .plain 'P' :: .plain '=' :: _ => .error .unsupported
    | .plain ':' :: rest => do
      let (body, groups, rest) ← readAlternatives fuel false mode groups rest
      closeGroup fuel leading mode groups items (body, .other) rest
    -- A group that is not given up again is a possessive repetition of one time.
    | .plain '>' :: rest => do
      let (body, groups, rest) ← readAlternatives fuel false mode groups rest
      closeGroup fuel leading mode groups items (.loop 1 (some 1) true body, .other) rest
    | .plain '#' :: rest => do
      let rest ← skipComment rest
      readSequence fuel leading mode groups items rest
    | .plain '=' :: rest => do
      let (body, groups, rest) ← readAlternatives fuel false mode groups rest
      closeGroup fuel leading mode groups items (.ahead false body, .other) rest
    | .plain '!' :: rest => do
      let (body, groups, rest) ← readAlternatives fuel false mode groups rest
      closeGroup fuel leading mode groups items (.ahead true body, .other) rest
    | .plain '<' :: .plain '=' :: _ | .plain '<' :: .plain '!' :: _ | .plain '(' :: _ =>
      .error .unsupported
    | .plain c :: _ =>
      if "imsxau-".toList.contains c then do
        let (letters, closing, rest) ← takeOptions [] toks
        let inner ← mode.apply letters
        if closing = ')' then
          -- Options for the whole pattern stand in front of everything else.
          if !leading || !items.isEmpty || letters.contains '-' then throw .options
          let groups := { groups with options := letters ++ groups.options }
          readSequence fuel leading inner groups items rest
        else
          let (body, groups, rest) ← readAlternatives fuel false inner groups rest
          closeGroup fuel leading mode groups items (body, .other) rest
      else .error .extension
    | _ => .error .extension

/-- The rest of a sequence behind a group whose body was read. -/
def closeGroup (fuel : Nat) (leading : Bool) (mode : Mode) (groups : Groups)
    (items : List (Pattern × ItemKind)) (item : Pattern × ItemKind) (toks : List Token) :
    Except Fault (Pattern × Mode × Groups × List Token) :=
  match fuel with
  | 0 => .error .openGroup
  | fuel + 1 =>
    match toks with
    | .plain ')' :: rest => readSequence fuel leading mode groups (item :: items) rest
    | _ => .error .openGroup

end

/-- The pattern that a text writes. -/
def read (cs : List Char) : Except Fault Pattern := do
  let toks ← tokens cs
  let (p, groups, rest) ← readAlternatives (3 * toks.length + 3) true {} {} toks
  if groups.options.contains 'a' && groups.options.contains 'u' then throw .alphabets
  if rest.isEmpty then return p else throw .unbalanced

/-- What is wrong with a text that writes no pattern. -/
def fault? (s : String) : Option Fault :=
  match read s.toList with
  | .ok _ => none
  | .error fault => some fault

/-- The text writes a pattern. -/
def isWellFormed (s : String) : Bool := (read s.toList).toBool

/-- The pattern that a text writes is found in another text; what writes no pattern is found
nowhere. -/
def occurs (s : String) : List Char → Bool :=
  match read s.toList with
  | .ok p => p.foundIn
  | .error _ => fun _ => false

/-- A text writes a pattern if nothing is wrong with it. -/
theorem isNone_fault? (s : String) : (fault? s).isNone = isWellFormed s := by
  rw [fault?, isWellFormed]
  cases read s.toList <;> rfl

end PackageLint.Pattern
