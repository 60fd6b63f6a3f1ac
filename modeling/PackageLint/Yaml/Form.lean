import PackageLint.Json.Reader
import PackageLint.Text.Search

/-!
# The forms of YAML scalars

A plain text means nothing, a truth value, a number or a moment if it is written in the form of
one, and itself otherwise. The forms of whole numbers are binary, octal, decimal, hexadecimal and
sexagesimal; those of floating point numbers need a point.
-/

namespace PackageLint.Yaml

/-- What a value is meant to be. -/
inductive Form
  /-- Nothing. -/
  | null
  /-- A truth value. -/
  | bool
  /-- A whole number. -/
  | int
  /-- A floating point number. -/
  | real
  /-- A day or a moment. -/
  | moment
  /-- Bytes. -/
  | binary
  /-- A text. -/
  | text
  /-- A list. -/
  | list
  /-- A table. -/
  | table
  /-- A list of tables with one entry each. -/
  | pairs
  /-- A set. -/
  | set
  /-- The sign that puts another table into this one. -/
  | merge
  /-- The sign for the value that stands for a table. -/
  | value
  /-- Something that has no meaning here. -/
  | unknown
  deriving DecidableEq, Repr

namespace Form

/-- What the tags of the language begin with. -/
def tagStart : String := "tag:yaml.org,2002:"

/-- The tags of the language and their forms. -/
def tags : List (String × Form) := [
  ("null", null), ("bool", bool), ("int", int), ("float", real), ("timestamp", moment),
  ("binary", binary), ("str", text), ("seq", list), ("map", table), ("omap", pairs),
  ("pairs", pairs), ("set", set), ("merge", merge), ("value", value)]

/-- The form that a tag names. -/
def ofTag (tag : String) : Form :=
  ((tags.find? fun entry => tagStart ++ entry.1 = tag).map (·.2)).getD unknown

/-! ### Shapes of texts -/

/-- The names of truth. -/
def trueNames : List String := ["yes", "true", "on"]

/-- The names of falsehood. -/
def falseNames : List String := ["no", "false", "off"]

/-- A name in lower case, with a capital, or in upper case. -/
def spellings (name : String) : List String := [name, name.capitalize, name.toUpper]

/-- The text without its sign. -/
def withoutSign (cs : List Char) : List Char := (Text.takeSign cs).2

/-- A digit or an underscore. -/
def isDigitOrLine (c : Char) : Bool := c.isDigit || c = '_'

/-- Digits of a base or underscores, at least one. -/
def isNumeral (isDigit : Char → Bool) (cs : List Char) : Bool :=
  !cs.isEmpty && cs.all fun c => isDigit c || c = '_'

/-- A digit and then digits or underscores. -/
def isDecimalNumeral : List Char → Bool
  | c :: rest => c.isDigit && rest.all isDigitOrLine
  | [] => false

/-- One digit, or two of which the first is below six. -/
def isSixtieth : List Char → Bool
  | [c] => c.isDigit
  | [c, d] => '0' ≤ c && c ≤ '5' && d.isDigit
  | _ => false

/-- A number of base sixty: a numeral and then parts below sixty, at least one. -/
def isSexagesimal (isFirst : List Char → Bool) (cs : List Char) : Bool :=
  match Text.splitAt ':' cs with
  | first :: part :: parts => isFirst first && (part :: parts).all isSixtieth
  | _ => false

/-- A decimal numeral that does not begin with a zero. -/
def isPlainNumeral : List Char → Bool
  | '0' :: _ => false
  | cs => isDecimalNumeral cs

/-- The form of a whole number. -/
def isInt (cs : List Char) : Bool :=
  match withoutSign cs with
  | '0' :: 'b' :: digits => isNumeral (fun c => c = '0' || c = '1') digits
  | '0' :: 'x' :: digits => isNumeral (fun c => (Json.hexValue? c).isSome) digits
  | ['0'] => true
  | '0' :: digits => isNumeral (fun c => '0' ≤ c && c ≤ '7') digits
  | digits => isPlainNumeral digits || isSexagesimal isPlainNumeral digits

/-- An exponent: a sign has to stand before its digits. -/
def isExponent : List Char → Bool
  | [] => true
  | e :: sign :: c :: rest =>
    (e = 'e' || e = 'E') && (sign = '+' || sign = '-') && (c :: rest).all Char.isDigit
  | _ => false

/-- The part of a number behind its point. -/
def isFraction (cs : List Char) : Bool := isExponent (cs.dropWhile isDigitOrLine)

/-- The form of a floating point number. -/
def isReal (cs : List Char) : Bool :=
  let body := withoutSign cs
  let whole := body.takeWhile (· != '.')
  match body.drop whole.length with
  | '.' :: fraction =>
    let named (name : String) : Bool := (spellings name).any (·.toList = fraction)
    if whole.isEmpty then
      named "inf" || (body = cs && (fraction = "nan".toList || fraction = "NaN".toList ||
        fraction = "NAN".toList || (fraction.head?.any Char.isDigit && isFraction fraction)))
    else (isDecimalNumeral whole && isFraction fraction) ||
      (isSexagesimal isDecimalNumeral whole && fraction.all isDigitOrLine)
  | _ => false

/-! ### Moments -/

/-- A day, and perhaps a time and its distance from universal time. -/
structure Moment where
  /-- The year. -/
  year : Nat
  /-- The month. -/
  month : Nat
  /-- The day. -/
  day : Nat
  /-- The hour, the minute and the second. -/
  time : Option (Nat × Nat × Nat) := none
  /-- The distance from universal time in minutes. -/
  offset : Int := 0
  deriving DecidableEq, Repr

namespace Moment

/-- Between `least` and `most` digits from here on, as many as there are. -/
def digits (least most : Nat) (cs : List Char) : Option (Nat × List Char) :=
  let ds := (cs.take most).takeWhile Char.isDigit
  if ds.length < least then none else some (Json.asciiValue ds, cs.drop ds.length)

/-- The text behind a character. -/
def behind (c : Char) : List Char → Option (List Char)
  | d :: rest => if c = d then some rest else none
  | [] => none

/-- A blank between the parts of a moment. -/
def isSpace (c : Char) : Bool := c = ' ' || c = '\t'

/-- Hours, and perhaps minutes behind a colon, in minutes. -/
def distanceOf (cs : List Char) : Option Nat := do
  let (hours, rest) ← digits 1 2 cs
  match rest with
  | [] => return 60 * hours
  | ':' :: rest =>
    let (minutes, rest) ← digits 2 2 rest
    guard rest.isEmpty
    return 60 * hours + minutes
  | _ => none

/-- The distance from universal time, in minutes. -/
def offsetOf : List Char → Option Int
  | [] | ['Z'] => some 0
  | '+' :: rest => (distanceOf rest).map fun n => n
  | '-' :: rest => (distanceOf rest).map fun n => -n
  | _ => none

/-- The time of a day and the distance from universal time. -/
def timeOf (cs : List Char) : Option ((Nat × Nat × Nat) × Int) := do
  let (hour, rest) ← digits 1 2 cs
  let (minute, rest) ← digits 2 2 (← behind ':' rest)
  let (second, rest) ← digits 2 2 (← behind ':' rest)
  let rest := match rest with
    | '.' :: fraction => fraction.dropWhile Char.isDigit
    | rest => rest
  let zone := rest.dropWhile isSpace
  guard (!(zone.isEmpty && !rest.isEmpty))
  return ((hour, minute, second), ← offsetOf zone)

/-- The moment that a text writes. -/
def ofText? (cs : List Char) : Option Moment := do
  let (year, rest) ← digits 4 4 cs
  let (month, rest) ← digits 1 2 (← behind '-' rest)
  let (day, rest) ← digits 1 2 (← behind '-' rest)
  match rest with
  | [] => return { year, month, day }
  | c :: following =>
    let clock ←
      if c = 'T' || c = 't' then some following
      else if isSpace c then some (following.dropWhile isSpace)
      else none
    let (time, offset) ← timeOf clock
    return { year, month, day, time, offset }

/-- The number of days of a month. -/
def daysIn (year month : Nat) : Nat :=
  if month = 2 then
    if year % 4 = 0 && (year % 100 != 0 || year % 400 = 0) then 29 else 28
  else if month = 4 || month = 6 || month = 9 || month = 11 then 30
  else 31

end Moment

/-- The form of a moment. A day alone has two digits for the month and for the day. -/
def isMoment (cs : List Char) : Bool :=
  match Moment.ofText? cs with
  | some found => found.time.isSome || cs.length = 10
  | none => false

/-- The form of a plain text. -/
def ofPlain (s : String) : Form :=
  let cs := s.toList
  if s = "" || s = "~" || (spellings "null").contains s then null
  else if (trueNames ++ falseNames).any fun name => (spellings name).contains s then bool
  else if isReal cs then real
  else if isInt cs then int
  else if s = "<<" then merge
  else if isMoment cs then moment
  else if s = "=" then value
  else text

/-- Nothing may be written as nothing at all. -/
@[simp] theorem ofPlain_empty : ofPlain "" = null := by simp [ofPlain]

example : isInt "1:30".toList = true := by cbv

example : isReal "1e3".toList = false := by cbv

end Form

end PackageLint.Yaml
