import PackageLint.Shell.Word

/-!
# Scripts

A script is read in two steps. Its text is cut into words, operators and redirections; then these
are put together to commands that run one behind the other, or only if the one before went well or
did not, and to choices.

Scripts stand for the processes that a toolchain starts, in the outer layer of the program only: the
commands are proved right for any toolchain, whatever it answers.
-/

namespace PackageLint.Shell

/-- Where a command writes: its output, and what it says on the side. -/
inductive Channel
  /-- The output. -/
  | output
  /-- What is said on the side. -/
  | errors
  deriving DecidableEq, Repr

/-- Another place for what goes to a channel; nothing where it is thrown away. -/
structure Redirection where
  /-- The channel. -/
  source : Channel
  /-- The channel that takes its place. -/
  target : Option Channel
  deriving DecidableEq, Repr

/-- A piece of a script. -/
inductive Token
  /-- A word. -/
  | word (w : Word)
  /-- Another place for a channel. -/
  | redirection (r : Redirection)
  /-- The end of a command. -/
  | separator
  /-- The end of a branch. -/
  | branchEnd
  /-- The next command runs if this one went well. -/
  | conjunction
  /-- The next command runs if this one did not go well. -/
  | disjunction
  /-- The next pattern of a branch. -/
  | bar
  /-- The end of the patterns of a branch. -/
  | close
  deriving DecidableEq, Repr

/-- What is wrong with a script. -/
inductive Flaw
  /-- A quotation does not end. -/
  | unterminated
  /-- A piece stands where none can be. -/
  | unexpected
  deriving DecidableEq, Repr

/-- The wording of a flaw. -/
def Flaw.message : Flaw → String
  | unterminated => "Unterminated quoted string"
  | unexpected => "unexpected end of file"

/-! ### Words -/

/-- How a part of a word is quoted. -/
inductive Quotation
  /-- Not at all. -/
  | plain
  /-- In single quotes, where everything stands for itself. -/
  | single
  /-- In double quotes, where parameters keep their meaning. -/
  | double
  deriving DecidableEq, Repr

/-- A character that ends a word. -/
def endsWord (c : Char) : Bool := isSeparator c || [';', '&', '|', '<', '>', '(', ')'].contains c

/-- A character that a backslash protects inside of double quotes. -/
def isProtected (c : Char) : Bool := c = '$' || c = '"' || c = '\\' || c.toNat = 0x60

/-- The word with one more piece of text. -/
def addText (cs : List Char) (word : Word) : Word :=
  match word.reverse with
  | .text before :: others => (Part.text (before ++ cs) :: others).reverse
  | _ => word ++ [.text cs]

/-- Reads a word on; `word` is what was read of it. -/
def readWord (quotation : Quotation) (word : Word) :
    List Char → Except Flaw (Word × List Char)
  | [] => if quotation = .plain then .ok (word, []) else .error .unterminated
  | '\\' :: c :: rest =>
    match quotation with
    | .plain =>
      -- A backslash at the end of a line joins the next line to this one.
      if c = '\n' then readWord .plain word rest else readWord .plain (addText [c] word) rest
    | .double =>
      readWord .double (addText (if isProtected c then [c] else ['\\', c]) word) rest
    | .single =>
      if c = '\'' then readWord .plain (addText ['\\'] word) rest
      else readWord .single (addText ['\\', c] word) rest
  | '$' :: c :: rest =>
    match quotation, Parameter.ofChar? c with
    | .single, _ =>
      if c = '\'' then readWord .plain (addText ['$'] word) rest
      else readWord .single (addText ['$', c] word) rest
    | _, some p => readWord quotation (word ++ [.parameter (quotation = .double) p]) rest
    | _, none => readWord quotation (addText ['$'] word) (c :: rest)
  | c :: rest =>
    match quotation with
    | .plain =>
      if endsWord c then .ok (word, c :: rest)
      else if c = '\'' then readWord .single (addText [] word) rest
      else if c = '"' then readWord .double (addText [] word) rest
      else readWord .plain (addText [c] word) rest
    | .single =>
      if c = '\'' then readWord .plain word rest else readWord .single (addText [c] word) rest
    | .double =>
      if c = '"' then readWord .plain word rest else readWord .double (addText [c] word) rest
termination_by cs => cs.length

/-! ### Pieces -/

/-- The channel of a number. -/
def channelOf (c : Char) : Option Channel :=
  if c = '1' then some .output else if c = '2' then some .errors else none

/-- Reads what stands behind the arrow of a redirection. -/
def readTarget (source : Channel) :
    List Char → Except Flaw (Token × List Char)
  | '&' :: c :: rest => .ok (.redirection { source, target := channelOf c }, rest)
  | cs =>
    -- What goes to a file is lost.
    match readWord .plain [] (cs.dropWhile isSeparator) with
    | .ok (_, rest) => .ok (.redirection { source, target := none }, rest)
    | .error flaw => .error flaw

/-- Reads the first piece of a text that starts with no blank. -/
def readToken : List Char → Except Flaw (Token × List Char)
  | ';' :: ';' :: rest => .ok (.branchEnd, rest)
  | ';' :: rest | '\n' :: rest => .ok (.separator, rest)
  | '&' :: '&' :: rest => .ok (.conjunction, rest)
  | '|' :: '|' :: rest => .ok (.disjunction, rest)
  | '|' :: rest => .ok (.bar, rest)
  | ')' :: rest => .ok (.close, rest)
  | '>' :: rest => readTarget .output rest
  | '1' :: '>' :: rest => readTarget .output rest
  | '2' :: '>' :: rest => readTarget .errors rest
  | '&' :: _ | '<' :: _ | '(' :: _ => .error .unexpected
  | cs =>
    match readWord .plain [] cs with
    | .ok (word, rest) => .ok (.word word, rest)
    | .error flaw => .error flaw

/-- The pieces of a text; `fuel` bounds their number. -/
def readTokens : (fuel : Nat) → List Char → Except Flaw (List Token)
  | 0, _ => .ok []
  | fuel + 1, cs =>
    match cs.dropWhile fun c => c = ' ' || c = '\t' with
    | [] => .ok []
    | '#' :: rest => readTokens fuel (rest.dropWhile (· ≠ '\n'))
    | cs =>
      match readToken cs with
      | .error flaw => .error flaw
      | .ok (token, rest) =>
        match readTokens fuel rest with
        | .error flaw => .error flaw
        | .ok tokens => .ok (token :: tokens)

/-! ### Commands -/

/-- A script. -/
inductive Script
  /-- Nothing to do. -/
  | nothing
  /-- A command with its redirections. -/
  | command (words : List Word) (redirections : List Redirection)
  /-- One behind the other. -/
  | both (first second : Script)
  /-- The second if the first went well. -/
  | ifWell (first second : Script)
  /-- The second if the first did not go well. -/
  | ifNot (first second : Script)
  /-- The first where a word matches one of some patterns, else the second. -/
  | choice (subject : Word) (patterns : List Word) (branch otherwise : Script)
  /-- The first where a condition goes well, else the second. -/
  | condition (test branch otherwise : Script)
  deriving Repr

/-- A command that does nothing, and does it well. -/
def Script.skip : Script := .command [] []

/-- The text of a piece that is written without quotes. -/
def Token.keyword : Token → String
  | .word [.text cs] => .ofList cs
  | _ => ""

/-- The words that end a list of commands. -/
def enders : List String := ["then", "elif", "else", "fi", "esac"]

/-- The piece ends a list of commands. -/
def Token.endsList (token : Token) : Bool :=
  token = .branchEnd || enders.contains token.keyword

/-- The pieces behind empty commands. -/
def skipSeparators (tokens : List Token) : List Token := tokens.dropWhile (· = .separator)

/-- Reads a simple command: words and redirections. -/
def readCommand (words : List Word) (redirections : List Redirection) :
    List Token → Script × List Token
  | .word w :: rest => readCommand (words ++ [w]) redirections rest
  | .redirection r :: rest => readCommand words (redirections ++ [r]) rest
  | rest => (.command words redirections, rest)

/-- Reads the patterns of a branch. -/
def readPatterns (patterns : List Word) : List Token → Except Flaw (List Word × List Token)
  | .word w :: .bar :: rest => readPatterns (patterns ++ [w]) rest
  | .word w :: .close :: rest => .ok (patterns ++ [w], rest)
  | _ => .error .unexpected

mutual

/-- Reads a command or a choice. -/
def readUnit : (fuel : Nat) → List Token → Except Flaw (Script × List Token)
  | 0, _ => .error .unexpected
  | fuel + 1, tokens =>
    match tokens with
    | .word w :: rest =>
      match (Token.word w).keyword with
      | "case" => readChoice fuel rest
      | "if" => readCondition fuel rest
      | _ => .ok (readCommand [] [] (.word w :: rest))
    | .redirection _ :: _ => .ok (readCommand [] [] tokens)
    | _ => .error .unexpected

/-- Reads a choice behind its first word. -/
def readChoice : (fuel : Nat) → List Token → Except Flaw (Script × List Token)
  | 0, _ => .error .unexpected
  | fuel + 1, tokens =>
    match tokens with
    | .word subject :: rest =>
      match skipSeparators rest with
      | token :: rest =>
        if token.keyword = "in" then readBranches fuel subject (skipSeparators rest)
        else .error .unexpected
      | [] => .error .unexpected
    | _ => .error .unexpected

/-- Reads a condition and what depends on it, behind its first word. -/
def readCondition : (fuel : Nat) → List Token → Except Flaw (Script × List Token)
  | 0, _ => .error .unexpected
  | fuel + 1, tokens =>
    match readList fuel tokens with
    | .error flaw => .error flaw
    | .ok (test, token :: rest) =>
      if token.keyword ≠ "then" then .error .unexpected
      else match readList fuel rest with
        | .error flaw => .error flaw
        | .ok (branch, rest) =>
          match readOtherwise fuel rest with
          | .error flaw => .error flaw
          | .ok (otherwise, rest) => .ok (.condition test branch otherwise, rest)
    | .ok (_, []) => .error .unexpected

/-- Reads what is done where a condition does not go well. -/
def readOtherwise : (fuel : Nat) → List Token → Except Flaw (Script × List Token)
  | 0, _ => .error .unexpected
  | fuel + 1, tokens =>
    match tokens with
    | [] => .error .unexpected
    | token :: rest =>
      match token.keyword with
      | "fi" => .ok (.skip, rest)
      | "elif" => readCondition fuel rest
      | "else" =>
        match readList fuel rest with
        | .error flaw => .error flaw
        | .ok (otherwise, token :: rest) =>
          if token.keyword = "fi" then .ok (otherwise, rest) else .error .unexpected
        | .ok (_, []) => .error .unexpected
      | _ => .error .unexpected

/-- Reads the branches of a choice. -/
def readBranches : (fuel : Nat) → (subject : Word) → List Token →
    Except Flaw (Script × List Token)
  | 0, _, _ => .error .unexpected
  | fuel + 1, subject, tokens =>
    match tokens with
    | [] => .error .unexpected
    | token :: rest =>
      if token.keyword = "esac" then .ok (.skip, rest)
      else match readPatterns [] (token :: rest) with
        | .error flaw => .error flaw
        | .ok (patterns, rest) =>
          match readList fuel rest with
          | .error flaw => .error flaw
          | .ok (branch, rest) =>
            -- The last branch needs no mark at its end.
            let rest := match rest with
              | .branchEnd :: rest => skipSeparators rest
              | rest => rest
            match readBranches fuel subject rest with
            | .error flaw => .error flaw
            | .ok (others, rest) => .ok (.choice subject patterns branch others, rest)

/-- Reads commands that depend on one another. -/
def readChain : (fuel : Nat) → List Token → Except Flaw (Script × List Token)
  | 0, _ => .error .unexpected
  | fuel + 1, tokens =>
    match readUnit fuel tokens with
    | .error flaw => .error flaw
    | .ok (first, rest) => readLinks fuel first rest

/-- Reads on behind a command that others may depend on. -/
def readLinks : (fuel : Nat) → (first : Script) → List Token →
    Except Flaw (Script × List Token)
  | 0, _, _ => .error .unexpected
  | fuel + 1, first, tokens =>
    match tokens with
    | .conjunction :: rest =>
      match readUnit fuel (skipSeparators rest) with
      | .error flaw => .error flaw
      | .ok (second, rest) => readLinks fuel (.ifWell first second) rest
    | .disjunction :: rest =>
      match readUnit fuel (skipSeparators rest) with
      | .error flaw => .error flaw
      | .ok (second, rest) => readLinks fuel (.ifNot first second) rest
    | rest => .ok (first, rest)

/-- Reads commands up to the end of the script or of a branch. -/
def readList : (fuel : Nat) → List Token → Except Flaw (Script × List Token)
  | 0, _ => .error .unexpected
  | fuel + 1, tokens =>
    match skipSeparators tokens with
    | [] => .ok (.nothing, [])
    | token :: rest =>
      if token.endsList then .ok (.nothing, token :: rest)
      else match readChain fuel (token :: rest) with
        | .error flaw => .error flaw
        | .ok (first, rest) =>
          match readList fuel rest with
          | .error flaw => .error flaw
          | .ok (second, rest) => .ok (.both first second, rest)

end

/-- The script that a text writes. -/
def Script.read (cs : List Char) : Except Flaw Script :=
  match readTokens (cs.length + 1) cs with
  | .error flaw => .error flaw
  | .ok tokens =>
    match readList (6 * tokens.length + 6) tokens with
    | .error flaw => .error flaw
    | .ok (script, []) => .ok script
    | .ok (_, _ :: _) => .error .unexpected

/-- A blank text is a script with nothing to do. -/
@[simp] theorem Script.read_nil : Script.read [] = .ok .nothing := by
  simp [Script.read, readTokens, readList, skipSeparators]

end PackageLint.Shell
