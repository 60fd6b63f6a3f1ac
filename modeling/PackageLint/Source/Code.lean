import PackageLint.Text.Blank

/-!
# Code on a line of source

A line is code except for double-quoted texts, quoted single characters and what follows `//`.
Two scanners walk over a line: `codeChars` keeps the characters that are code, and
`withoutComment` cuts the line before its comment and keeps the texts. Texts know backslash
escapes. Neither knows comments or texts that go over several lines.

## Main results

* `codeChars_comment`: a comment holds no code;
* `withoutComment_isPrefix`: the part before the comment starts the line.
-/

namespace PackageLint.Source

/-- A line of source as its characters. -/
abbrev Line := List Char

/-- The code characters of a line whose scan stands inside a text or outside of one. -/
def codeFrom : (inText : Bool) → Line → List Char
  | _, [] => []
  -- A backslash protects the character behind it.
  | true, '\\' :: _ :: rest => codeFrom true rest
  | true, c :: rest => codeFrom (c != '"') rest
  | false, '"' :: rest => codeFrom true rest
  | false, '/' :: '/' :: _ => []
  -- A single character in quotes may be a brace.
  | false, '\'' :: _ :: '\'' :: rest => codeFrom false rest
  | false, c :: rest => c :: codeFrom false rest

/-- The characters of a line that are code. -/
def codeChars (line : Line) : List Char := codeFrom false line

/-- The part of a line before its comment, where the scan stands inside a text or outside. -/
def commentlessFrom : (inText : Bool) → Line → Line
  | _, [] => []
  | true, '\\' :: c :: rest => '\\' :: c :: commentlessFrom true rest
  | true, c :: rest => c :: commentlessFrom (c != '"') rest
  | false, '"' :: rest => '"' :: commentlessFrom true rest
  | false, '/' :: '/' :: _ => []
  | false, c :: rest => c :: commentlessFrom false rest

/-- The part of a line before its comment. -/
def withoutComment (line : Line) : Line := commentlessFrom false line

/-- The number of opening braces less the number of closing braces in the code of a line. -/
def braceDelta (line : Line) : Int :=
  ((codeChars line).count '\x7b' : Int) - (codeChars line).count '\x7d'

/-- The number of closing braces in the code of a line. -/
def closingBraces (line : Line) : Nat := (codeChars line).count '\x7d'

/-- The line holds nothing, or nothing but a comment. -/
def isBlankOrComment (line : Line) : Bool :=
  let body := Text.trim line
  body.isEmpty || "//".toList.isPrefixOf body

@[simp] theorem codeChars_nil : codeChars [] = [] := by simp [codeChars, codeFrom]

@[simp] theorem withoutComment_nil : withoutComment [] = [] := by
  simp [withoutComment, commentlessFrom]

@[simp] theorem braceDelta_nil : braceDelta [] = 0 := by simp [braceDelta]

/-- A comment holds no code. -/
@[simp] theorem codeChars_comment (rest : Line) : codeChars ('/' :: '/' :: rest) = [] := by
  simp [codeChars, codeFrom]

/-- What is cut off a line is at its end. -/
theorem commentlessFrom_isPrefix (inText : Bool) (line : Line) :
    commentlessFrom inText line <+: line := by
  fun_induction commentlessFrom inText line <;> simp_all

/-- The part before the comment starts the line. -/
theorem withoutComment_isPrefix (line : Line) : withoutComment line <+: line :=
  commentlessFrom_isPrefix false line

end PackageLint.Source
