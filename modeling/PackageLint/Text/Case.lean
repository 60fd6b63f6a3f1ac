import PackageLint.Text.CaseTable

/-!
# Lower case

Lower-casing a text replaces each character by its lower-case form. Two characters need more than
a table: the dotted capital I becomes two characters, and a capital sigma becomes a final sigma
where it ends a word.
-/

namespace PackageLint.Text

/-- The lower-case form of a character as one character. -/
def lowerChar (c : Char) : Char :=
  if c.toNat < 128 then c.toLower
  else if c.toNat = 0x130 then 'i'
  else match lowerRuns.find? (·.holds c.toNat) with
    | some run => Char.ofNat (c.toNat + run.shift).toNat
    | none => c

/-- An upper-case, lower-case or title-case letter. -/
def isCased (c : Char) : Bool :=
  c.isAlpha || (128 ≤ c.toNat && inRanges casedRanges c.toNat)

/-- A character that is passed over when the letter next to a sigma is looked for. -/
def isCaseIgnorable (c : Char) : Bool :=
  c = '\'' || c = '.' || c = ':' || c = '^' || c.toNat = 0x60 ||
    (128 ≤ c.toNat && inRanges caseIgnorableRanges c.toNat)

/-- The nearest character that is not passed over is a letter with case. -/
def nextIsCased (cs : List Char) : Bool :=
  match cs.dropWhile isCaseIgnorable with
  | c :: _ => isCased c
  | [] => false

/-- Lower case of a text that follows `before`, which is held in reverse order. -/
def lowerAfter (before : List Char) : List Char → List Char
  | [] => []
  | c :: rest =>
    let here :=
      -- A sigma is final behind a letter and before none.
      if c = 'Σ' then
        if nextIsCased before && !nextIsCased rest then ['ς'] else ['σ']
      else if c = 'İ' then ['i', Char.ofNat 0x307]
      else [lowerChar c]
    here ++ lowerAfter (c :: before) rest

/-- A text in lower case. -/
def lower (cs : List Char) : List Char := lowerAfter [] cs

/-- A string in lower case. -/
def lowered (s : String) : String := .ofList (lower s.toList)

@[simp] theorem lower_nil : lower [] = [] := rfl

/-- Outside ASCII nothing is needed for plain letters. -/
theorem lowerChar_of_ascii {c : Char} (h : c.toNat < 128) : lowerChar c = c.toLower := by
  simp [lowerChar, h]

end PackageLint.Text
