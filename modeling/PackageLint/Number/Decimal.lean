import PackageLint.Number.Binary64
import PackageLint.Text.Digit

/-!
# Decimal text of floating point numbers

Four ways of writing a number: with the fewest digits that read back, with a fixed number of
places, with a fixed number of significant digits, and the reading of all of them. All work on the
exact binary value and break ties to the even digit.
-/

namespace PackageLint.Binary64

open Number Text

/-- Decimal digits and the power of ten they are multiplied by. -/
structure Digits where
  /-- The digits as one number. -/
  digits : Nat
  /-- The exponent of the power of ten. -/
  exponent : Int
  deriving DecidableEq, Repr

/-- Digits without trailing zeros; `fuel` bounds the number of zeros. -/
def Digits.stripFrom : (fuel : Nat) → Digits → Digits
  | 0, d => d
  | fuel + 1, d =>
    if d.digits ≠ 0 ∧ d.digits % 10 = 0 then stripFrom fuel ⟨d.digits / 10, d.exponent + 1⟩ else d

/-- Digits without trailing zeros. -/
def Digits.strip (d : Digits) : Digits := stripFrom (digitCount d.digits) d

/-- The two neighbours of `num / den` among the multiples of `10 ^ unit`, the nearer one first;
the even one where both are equally near. -/
def neighbours (num den : Nat) (unit : Int) : List Digits :=
  let (n, d) := scaleDown 10 num den unit
  let below := n / d
  let near := roundDiv n d
  let far := if near = below then below + 1 else below
  [⟨near, unit⟩, ⟨far, unit⟩]

/-- The first of the decimal grids with `count`, `count + 1`, … digits on which a neighbour of the
number reads back as it. -/
def shortestFrom (x : Binary64) (num den : Nat) (lead : Int) : (fuel count : Nat) → Digits
  | 0, count => ((neighbours num den (lead + 1 - count)).head?).getD ⟨0, 0⟩
  | fuel + 1, count =>
    let hit := (neighbours num den (lead + 1 - count)).find? fun d =>
      ofDecimal x.isNegative d.digits d.exponent = x
    hit.getD (shortestFrom x num den lead fuel (count + 1))

/-- The fewest digits that read back as the number, and of those the nearest. -/
def shortest (x : Binary64) : Digits :=
  let (num, den) := x.toRatio
  if num = 0 then ⟨0, 0⟩
  else (shortestFrom x num den (leadingExponent num den) 16 1).strip

/-- The sign in front of a number. -/
def signText (negative : Bool) : String := if negative then "-" else ""

/-- Digits with a point behind the first `before` of them, with zeros filled in on either side;
`before` may be negative or beyond the last digit. -/
def placePoint (digits : List Char) (before : Int) (keepZero : Bool) : String :=
  let count : Int := digits.length
  if before ≤ 0 then "0." ++ .ofList (List.replicate (-before).toNat '0' ++ digits)
  else if count ≤ before then
    .ofList (digits ++ List.replicate (before - count).toNat '0') ++ (if keepZero then ".0" else "")
  else .ofList (digits.take before.toNat ++ '.' :: digits.drop before.toNat)

/-- Scientific notation: one digit before the point, an exponent with a sign and two digits or
more. -/
def scientific (digits : List Char) (exponent : Int) : String :=
  let power := toString exponent.natAbs
  let power := if power.length < 2 then "0" ++ power else power
  let rest := digits.drop 1
  .ofList (digits.take 1 ++ (if rest.isEmpty then [] else '.' :: rest)) ++ "e" ++
    (if exponent < 0 then "-" else "+") ++ power

/-- The number with the fewest digits that read back: positional from `0.0001` up to below
`10 ^ 16`, scientific elsewhere. A whole number keeps one zero behind the point. -/
def text : Binary64 → String
  | nan => "nan"
  | infinite negative => signText negative ++ "inf"
  | finite negative 0 _ => signText negative ++ "0.0"
  | x =>
    let d := shortest x
    let digits := Nat.toDigits 10 d.digits
    let before := digits.length + d.exponent
    signText x.isNegative ++
      if -4 < before ∧ before ≤ 16 then placePoint digits before true
      else scientific digits (before - 1)

/-- The number with exactly `places` digits behind the point. -/
def fixed (places : Nat) : Binary64 → String
  | nan => "nan"
  | infinite negative => signText negative ++ "inf"
  | x =>
    let (num, den) := x.toRatio
    let digits := Nat.toDigits 10 (roundDiv (num * Nat.pow 10 places) den)
    let digits := List.replicate (places + 1 - digits.length) '0' ++ digits
    let before := digits.length - places
    signText x.isNegative ++ .ofList (digits.take before) ++
      (if places = 0 then "" else "." ++ .ofList (digits.drop before))

/-- The number with at most `precision` significant digits and no trailing zeros: scientific below
`0.0001` and from `10 ^ precision` on. -/
def general (precision : Nat) : Binary64 → String
  | nan => "nan"
  | infinite negative => signText negative ++ "inf"
  | finite negative 0 _ => signText negative ++ "0"
  | x =>
    let (num, den) := x.toRatio
    let lead := leadingExponent num den
    let (n, d) := scaleDown 10 num den (lead + 1 - precision)
    let rounded : Digits := Digits.strip ⟨roundDiv n d, lead + 1 - precision⟩
    let digits := Nat.toDigits 10 rounded.digits
    let exponent := digits.length + rounded.exponent - 1
    signText x.isNegative ++
      if exponent < -4 ∨ (precision : Int) ≤ exponent then scientific digits exponent
      else placePoint digits (exponent + 1) false

/-- The number nearest to the one with `places` digits behind the point that is nearest to the
given number. -/
def roundTo (places : Nat) : Binary64 → Binary64
  | finite negative mantissa exponent =>
    let (num, den) := (finite negative mantissa exponent).toRatio
    ofRatio negative (roundDiv (num * Nat.pow 10 places) den) (Nat.pow 10 places)
  | x => x

/-- The values of the decimal digits at the start of a text, and the rest of it. -/
def takeDigits : List Char → List Nat × List Char
  | [] => ([], [])
  | c :: rest =>
    match decimal? c with
    | some d => let (ds, rest) := takeDigits rest; (d :: ds, rest)
    | none => ([], c :: rest)

/-- The number that a list of decimal digits writes. -/
def digitsValue (ds : List Nat) : Nat := ds.foldl (fun n d => 10 * n + d) 0

/-- The number written by the digits before and behind a point and an exponent. -/
def ofParts (negative : Bool) (whole fraction : List Nat) (exponent : Int) : Binary64 :=
  ofDecimal negative (digitsValue (whole ++ fraction)) (exponent - fraction.length)

/-- The exponent at the end of a number: none, or an `e` with digits and perhaps a sign. -/
def exponent? : List Char → Option Int
  | [] => some 0
  | c :: rest =>
    if c = 'e' ∨ c = 'E' then
      let (negative, rest) := takeSign rest
      match takeDigits rest with
      | ([], _) | (_, _ :: _) => none
      | (ds, []) => some (if negative then -(digitsValue ds : Int) else digitsValue ds)
    else none

/-- The number that digits with an optional point and an optional exponent write. -/
def unsigned? (negative : Bool) (cs : List Char) : Option Binary64 :=
  let (whole, rest) := takeDigits cs
  let (fraction, rest) := match rest with
    | '.' :: rest => takeDigits rest
    | _ => ([], rest)
  if whole.isEmpty && fraction.isEmpty then none
  else (exponent? rest).map (ofParts negative whole fraction)

/-- The number that a text writes: blanks around it, a sign, single underscores between digits and
the names of infinity and of no number are accepted. -/
def read? (cs : List Char) : Option Binary64 :=
  let (negative, body) := takeSign (trimNumeral cs)
  let name := String.ofList (body.map Char.toLower)
  if name = "inf" ∨ name = "infinity" then some (infinite negative)
  else if name = "nan" then some nan
  else (dropSeparators body).bind (unsigned? negative)

example : (ofDecimal false 1 (-1)).text = "0.1" := by decide +kernel

example : (ofDecimal false 2675 (-3)).fixed 2 = "2.67" := by decide +kernel

example : (ofDecimal false 1 16).text = "1e+16" := by decide +kernel

end PackageLint.Binary64
