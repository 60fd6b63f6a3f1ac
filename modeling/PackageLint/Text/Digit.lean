import PackageLint.Text.Blank
import PackageLint.Text.WordTable

/-!
# Digits and whole numbers

Every script has ten decimal digits, and some have further digits (superscripts, circled numbers)
that no number can be written with. `isDigit` accepts both kinds, `decimal?` gives the value of the
first kind only, and `integer?` reads a whole number.

## Main results

* `decimal?_lt`: a decimal digit is below ten;
* `isDigit_of_isDecimal`: a decimal digit is a digit;
* `natural?_toDigits`: a number is read from its own digits;
* `isSome_natural?`: decimal digits of any script write a number;
* `superscript_two_isDigit`: there are digits that no number is written with.
-/

namespace PackageLint.Text

/-- The zeros of all scripts; the other nine digits follow each of them. -/
def zeros : List Nat := [
  0x30, 0x660, 0x6F0, 0x7C0, 0x966, 0x9E6, 0xA66, 0xAE6, 0xB66, 0xBE6, 0xC66, 0xCE6, 0xD66, 0xDE6,
  0xE50, 0xED0, 0xF20, 0x1040, 0x1090, 0x17E0, 0x1810, 0x1946, 0x19D0, 0x1A80, 0x1A90, 0x1B50,
  0x1BB0, 0x1C40, 0x1C50, 0xA620, 0xA8D0, 0xA900, 0xA9D0, 0xA9F0, 0xAA50, 0xABF0, 0xFF10, 0x104A0,
  0x10D30, 0x11066, 0x110F0, 0x11136, 0x111D0, 0x112F0, 0x11450, 0x114D0, 0x11650, 0x116C0,
  0x11730, 0x118E0, 0x11950, 0x11C50, 0x11D50, 0x11DA0, 0x16A60, 0x16AC0, 0x16B50, 0x1D7CE,
  0x1D7D8, 0x1D7E2, 0x1D7EC, 0x1D7F6, 0x1E140, 0x1E2F0, 0x1E950, 0x1FBF0]

/-- The digits that are not decimal. -/
def otherDigitRanges : List (Nat × Nat) := [
  (0xB2, 0xB3), (0xB9, 0xB9), (0x1369, 0x1371), (0x19DA, 0x19DA), (0x2070, 0x2070),
  (0x2074, 0x2079), (0x2080, 0x2089), (0x2460, 0x2468), (0x2474, 0x247C), (0x2488, 0x2490),
  (0x24EA, 0x24EA), (0x24F5, 0x24FD), (0x24FF, 0x24FF), (0x2776, 0x277E), (0x2780, 0x2788),
  (0x278A, 0x2792), (0x10A40, 0x10A43), (0x10E60, 0x10E68), (0x11052, 0x1105A),
  (0x1F100, 0x1F10A)]

/-- The value of a decimal digit of any script. -/
def decimal? (c : Char) : Option Nat :=
  (zeros.find? fun z => z ≤ c.toNat && c.toNat < z + 10).map (c.toNat - ·)

/-- A decimal digit of any script. -/
def isDecimal (c : Char) : Bool := (decimal? c).isSome

/-- A digit of any kind. -/
def isDigit (c : Char) : Bool := isDecimal c || inRanges otherDigitRanges c.toNat

/-- The number that decimal digits write, `none` where another character stands between them. -/
def naturalFrom? (value : Nat) : List Char → Option Nat
  | [] => some value
  | c :: rest => (decimal? c).bind fun d => naturalFrom? (10 * value + d) rest

/-- The number that a row of decimal digits writes. -/
def natural? : List Char → Option Nat
  | [] => none
  | cs => naturalFrom? 0 cs

/-- Blanks that may surround a number: those of ASCII without the information separators, and all
blanks beyond ASCII. -/
def isNumeralBlank (c : Char) : Bool :=
  if c.toNat < 127 then (9 ≤ c.toNat && c.toNat ≤ 13) || c = ' ' else isBlank c

/-- A text without the blanks that may surround a number. -/
def trimNumeral (cs : List Char) : List Char :=
  ((cs.dropWhile isNumeralBlank).reverse.dropWhile isNumeralBlank).reverse

/-- Digits in which single underscores may stand between two digits, without the underscores. -/
def dropSeparators : List Char → Option (List Char)
  | [] => some []
  | [c] => if c = '_' then none else some [c]
  | c :: '_' :: d :: rest =>
    if (decimal? c).isSome && (decimal? d).isSome then (dropSeparators (d :: rest)).map (c :: ·)
    else none
  | c :: rest => if c = '_' then none else (dropSeparators rest).map (c :: ·)

/-- A sign and what follows it; the flag says that the sign is a minus. -/
def takeSign : List Char → Bool × List Char
  | '-' :: rest => (true, rest)
  | '+' :: rest => (false, rest)
  | cs => (false, cs)

/-- The whole number that a text writes: blanks around it, a sign, decimal digits of any script and
single underscores between digits are accepted. -/
def integer? (cs : List Char) : Option Int :=
  let (negative, digits) := takeSign (trimNumeral cs)
  ((dropSeparators digits).bind natural?).map fun n => if negative then -(n : Int) else n

/-- A decimal digit is below ten. -/
theorem decimal?_lt {c : Char} {d : Nat} (h : decimal? c = some d) : d < 10 := by
  simp only [decimal?, Option.map_eq_some_iff] at h
  obtain ⟨z, hz, rfl⟩ := h
  have := List.find?_some hz
  simp only [Bool.and_eq_true, decide_eq_true_eq] at this
  omega

/-- A decimal digit is a digit. -/
theorem isDigit_of_isDecimal {c : Char} (h : isDecimal c = true) : isDigit c = true := by
  simp [isDigit, h]

/-- An ASCII digit has its usual value. -/
theorem decimal?_of_isDigit {c : Char} (h : c.isDigit = true) :
    decimal? c = some (c.toNat - 0x30) := by
  obtain ⟨hlow, hhigh⟩ := Char.isDigit_iff_toNat.1 h
  have hrange : 0x30 ≤ c.toNat ∧ c.toNat < 0x30 + 10 := ⟨hlow, Nat.lt_succ_of_le hhigh⟩
  rw [decimal?, zeros, List.find?_cons_of_pos (by simpa using hrange)]
  rfl

theorem naturalFrom?_of_isDigit {cs : List Char} (h : ∀ c ∈ cs, c.isDigit = true) (n : Nat) :
    naturalFrom? n cs = some (Nat.ofDigitChars 10 cs n) := by
  induction cs generalizing n with
  | nil => simp [naturalFrom?]
  | cons c cs ih =>
    rw [naturalFrom?, decimal?_of_isDigit (h c (by simp)), Option.bind_some,
      ih (fun c hc => h c (by simp [hc])), Nat.ofDigitChars_cons]
    rfl

/-- A number is read from its own digits. -/
theorem natural?_toDigits (n : Nat) : natural? (Nat.toDigits 10 n) = some n := by
  have hdigits : ∀ c ∈ Nat.toDigits 10 n, c.isDigit = true :=
    fun c hc => Nat.isDigit_of_mem_toDigits (by decide) (by decide) hc
  rw [natural?.eq_2 _ Nat.toDigits_ne_nil, naturalFrom?_of_isDigit hdigits,
    Nat.ofDigitChars_ten_toDigits]

theorem isSome_naturalFrom? {cs : List Char} (h : ∀ c ∈ cs, isDecimal c = true) (n : Nat) :
    (naturalFrom? n cs).isSome = true := by
  induction cs generalizing n with
  | nil => rfl
  | cons c cs ih =>
    rw [List.forall_mem_cons] at h
    obtain ⟨d, hd⟩ := Option.isSome_iff_exists.1 h.1
    rw [naturalFrom?, hd, Option.bind_some]
    exact ih h.2 _

/-- Decimal digits of any script write a number. -/
theorem isSome_natural? {cs : List Char} (hne : cs ≠ []) (h : ∀ c ∈ cs, isDecimal c = true) :
    (natural? cs).isSome = true := by
  rw [natural?.eq_2 _ hne]
  exact isSome_naturalFrom? h 0

/-- A superscript is a digit that no number is written with. -/
theorem superscript_two_isDigit : isDigit '²' = true ∧ decimal? '²' = none := by decide

end PackageLint.Text
