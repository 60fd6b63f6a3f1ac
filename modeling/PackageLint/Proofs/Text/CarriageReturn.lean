import Mathlib
import PackageLint.Text.Blank
import PackageLint.Text.Case
import PackageLint.Text.Lines
import PackageLint.Text.Search

/-!
# Carriage returns before line feeds

A line may end with a line feed or with a carriage return and a line feed. Whatever looks at a
text line by line, trims it, or looks for words in it does not see the difference: the operations on
texts either give the same for both or leave the carriage returns where they are.

## Main definitions

* `crlf` and `crlfText`: a text with a carriage return before each line feed.

## Main results

* `splitLines_crlf`: the lines are the same;
* `dropWhile_crlf` and `trim_crlf`: what is cut off at the ends is the same;
* `occursIn_crlf`: the same words stand in both;
* `lower_crlf`: the letters change in the same way.
-/

namespace PackageLint.Text

/-- The text with a carriage return before each line feed. -/
def crlf (cs : List Char) : List Char := cs.flatMap fun c => if c = '\n' then ['\r', '\n'] else [c]

/-- The string with a carriage return before each line feed. -/
def crlfText (s : String) : String := .ofList (crlf s.toList)

@[simp] theorem toList_crlfText (s : String) : (crlfText s).toList = crlf s.toList :=
  String.toList_ofList

@[simp] theorem crlf_nil : crlf [] = [] := rfl

@[simp] theorem crlf_newline (cs : List Char) : crlf ('\n' :: cs) = '\r' :: '\n' :: crlf cs := rfl

/-- A character that is no line feed stays as it is. -/
theorem crlf_cons {c : Char} (h : c ≠ '\n') (cs : List Char) : crlf (c :: cs) = c :: crlf cs := by
  simp [crlf, h]

/-- Each character is written by itself, so it does not matter where a text is cut. -/
@[simp] theorem crlf_append (cs ds : List Char) : crlf (cs ++ ds) = crlf cs ++ crlf ds :=
  List.flatMap_append

/-- A text of one line stays as it is. -/
theorem crlf_eq_self {cs : List Char} (h : '\n' ∉ cs) : crlf cs = cs := by
  induction cs with
  | nil => rfl
  | cons c cs ih =>
    rw [List.mem_cons, not_or] at h
    rw [crlf_cons (Ne.symm h.1), ih h.2]

/-- Writing carriage returns makes no text shorter, so what bounds a walk along the longer text
bounds one along the shorter text too. -/
theorem length_le_length_crlf (cs : List Char) : cs.length ≤ (crlf cs).length := by
  induction cs with
  | nil => rfl
  | cons c cs ih =>
    by_cases hc : c = '\n'
    · subst hc
      rw [crlf_newline, List.length_cons, List.length_cons, List.length_cons]
      omega
    · rw [crlf_cons hc, List.length_cons, List.length_cons]
      omega

/-- A text begins as it did, unless it began with a line feed. -/
theorem head?_crlf_eq_some_iff {cs : List Char} {c : Char} (hreturn : c ≠ '\r') (hfeed : c ≠ '\n') :
    (crlf cs).head? = some c ↔ cs.head? = some c := by
  cases cs with
  | nil => rfl
  | cons d cs =>
    by_cases hd : d = '\n'
    · subst hd
      simp [hreturn.symm, hfeed.symm]
    · rw [crlf_cons hd, List.head?_cons, List.head?_cons]

/-- Behind a first character that is no line feed, the rest of the text is written by itself. -/
theorem tail_crlf {cs : List Char} {c : Char} (hfeed : c ≠ '\n') (h : cs.head? = some c) :
    (crlf cs).tail = crlf cs.tail := by
  obtain ⟨tail, rfl⟩ := List.head?_eq_some_iff.1 h
  rw [crlf_cons hfeed, List.tail_cons, List.tail_cons]

/-- The carriage return of a line end stands no further behind than its line feed did. -/
theorem return_mem_take_crlf {n : Nat} {cs : List Char} (h : '\n' ∈ cs.take n) :
    '\r' ∈ (crlf cs).take n := by
  induction n generalizing cs with
  | zero => cases h
  | succ n ih =>
    cases cs with
    | nil => cases h
    | cons c cs =>
      by_cases hc : c = '\n'
      · subst hc
        exact .head _
      · rw [List.take_succ_cons, List.mem_cons] at h
        rw [crlf_cons hc, List.take_succ_cons]
        exact .tail _ (ih (h.resolve_left (Ne.symm hc)))

/-- What stands on the first line is taken and dropped in the same way. -/
theorem take_crlf_and_drop_crlf {n : Nat} {cs : List Char} (h : '\n' ∉ cs.take n) :
    (crlf cs).take n = cs.take n ∧ (crlf cs).drop n = crlf (cs.drop n) := by
  induction n generalizing cs with
  | zero => exact ⟨rfl, rfl⟩
  | succ n ih =>
    cases cs with
    | nil => exact ⟨rfl, rfl⟩
    | cons c cs =>
      rw [List.take_succ_cons, List.mem_cons, not_or] at h
      rw [crlf_cons (Ne.symm h.1), List.take_succ_cons, List.drop_succ_cons, (ih h.2).1, (ih h.2).2]
      exact ⟨rfl, rfl⟩

/-- A text that does not start with a character does not start with it after all. -/
theorem crlf_ne_cons {cs : List Char} {c : Char} (hreturn : c ≠ '\r') (hfeed : c ≠ '\n')
    (h : ∀ rest, cs ≠ c :: rest) (rest : List Char) : crlf cs ≠ c :: rest := by
  cases cs with
  | nil => exact nofun
  | cons d cs =>
    by_cases hd : d = '\n'
    · subst hd
      exact fun heq => hreturn (List.cons.inj heq).1.symm
    · rw [crlf_cons hd]
      rintro heq
      obtain ⟨rfl, -⟩ := List.cons.inj heq
      exact h cs rfl

/-! ## Lines -/

/-- A text has the same lines with either line end. -/
theorem splitLines_crlf {cs : List Char} (h : '\r' ∉ cs) :
    splitLines (crlf cs) = splitLines cs := by
  induction cs with
  | nil => rfl
  | cons c cs ih =>
    rw [List.mem_cons, not_or] at h
    by_cases hc : c = '\n'
    · subst hc
      rw [crlf_newline, splitLines, splitLines_newline, ih h.2]
    rw [crlf_cons hc]
    cases hend : isLineEnd c with
    | true =>
      -- A line end that is no carriage return stands alone.
      have halone (rest : List Char) : ∀ tail, c = '\r' → rest ≠ '\n' :: tail :=
        fun _ hreturn => absurd hreturn.symm h.1
      rw [splitLines_cons_of_isLineEnd hend (halone _),
        splitLines_cons_of_isLineEnd hend (halone _), ih h.2]
    | false => rw [splitLines_cons hend, splitLines_cons hend, ih h.2]

/-! ## Cutting -/

section Cutting

variable {p : Char → Bool}

/-- What is dropped at the start is the same, if both characters of a line end are alike. -/
theorem dropWhile_crlf (h : p '\r' = p '\n') (cs : List Char) :
    (crlf cs).dropWhile p = crlf (cs.dropWhile p) := by
  induction cs with
  | nil => rfl
  | cons c cs ih =>
    by_cases hc : c = '\n'
    · subst hc
      cases hp : p '\n' with
      | true => simp [h, hp, ih]
      | false => simp [h, hp]
    · rw [crlf_cons hc, List.dropWhile_cons, List.dropWhile_cons]
      split_ifs
      · exact ih
      · exact (crlf_cons hc cs).symm

/-- What is taken at the start is the same, if it goes over no line end. -/
theorem takeWhile_crlf (hreturn : p '\r' = false) (hfeed : p '\n' = false) (cs : List Char) :
    (crlf cs).takeWhile p = cs.takeWhile p := by
  induction cs with
  | nil => rfl
  | cons c cs ih =>
    by_cases hc : c = '\n'
    · subst hc
      simp [hreturn, hfeed]
    · rw [crlf_cons hc, List.takeWhile_cons, List.takeWhile_cons, ih]

theorem trimStart_crlf (cs : List Char) : trimStart (crlf cs) = crlf (trimStart cs) :=
  dropWhile_crlf rfl cs

/-- The last character of a text is what decides whether anything is trimmed off its end. -/
theorem trimEnd_append_singleton (cs : List Char) (c : Char) :
    trimEnd (cs ++ [c]) = if isBlank c then trimEnd cs else cs ++ [c] := by
  rw [trimEnd, List.reverse_append, List.reverse_singleton, List.singleton_append,
    List.dropWhile_cons]
  split_ifs
  · rfl
  · simp

/-- Trimming takes a line end off as a whole, since both of its characters are blank. -/
theorem trimEnd_crlf (cs : List Char) : trimEnd (crlf cs) = crlf (trimEnd cs) := by
  induction cs using List.reverseRecOn with
  | nil => rfl
  | append_singleton cs c ih =>
    by_cases hc : c = '\n'
    -- Both halves of a last line end are blank.
    · subst hc
      have hblank : trimEnd (crlf cs ++ ['\r'] ++ ['\n']) = trimEnd (crlf cs) := by
        rw [trimEnd_append_singleton, if_pos (by decide), trimEnd_append_singleton,
          if_pos (by decide)]
      rw [trimEnd_append_singleton, if_pos (by decide), ← ih, ← hblank, List.append_assoc,
        crlf_append]
      rfl
    · rw [crlf_append, crlf_cons hc, crlf_nil, trimEnd_append_singleton,
        trimEnd_append_singleton, ih]
      split_ifs
      · rfl
      · rw [crlf_append, crlf_cons hc, crlf_nil]

/-- Trimming leaves the carriage returns between the lines. -/
theorem trim_crlf (cs : List Char) : trim (crlf cs) = crlf (trim cs) := by
  rw [trim, trimStart_crlf, trimEnd_crlf, trim]

end Cutting

/-! ## Words -/

section Words

variable {needle : List Char}

/-- A word within a line begins the one text if it begins the other one. -/
theorem isPrefixOf_crlf (hreturn : '\r' ∉ needle) (hfeed : '\n' ∉ needle) (cs : List Char) :
    needle.isPrefixOf (crlf cs) = needle.isPrefixOf cs := by
  induction needle generalizing cs with
  | nil => simp
  | cons d needle ih =>
    rw [List.mem_cons, not_or] at hreturn hfeed
    cases cs with
    | nil => rfl
    | cons c cs =>
      by_cases hc : c = '\n'
      · subst hc
        have hd : (d == '\r') = false ∧ (d == '\n') = false :=
          ⟨beq_eq_false_iff_ne.2 (Ne.symm hreturn.1), beq_eq_false_iff_ne.2 (Ne.symm hfeed.1)⟩
        simp [List.isPrefixOf, hd.1, hd.2]
      · rw [crlf_cons hc, List.isPrefixOf, List.isPrefixOf, ih hreturn.2 hfeed.2]

/-- The same words stand in a text with either line end. -/
theorem occursIn_crlf (hreturn : '\r' ∉ needle) (hfeed : '\n' ∉ needle) (cs : List Char) :
    occursIn needle (crlf cs) = occursIn needle cs := by
  induction cs with
  | nil => rfl
  | cons c cs ih =>
    by_cases hc : c = '\n'
    · subst hc
      cases needle with
      | nil => simp [occursIn]
      | cons d needle =>
        -- A word begins with neither character of a line end.
        rw [List.mem_cons, not_or] at hreturn hfeed
        have hd : (d == '\r') = false ∧ (d == '\n') = false :=
          ⟨beq_eq_false_iff_ne.2 (Ne.symm hreturn.1), beq_eq_false_iff_ne.2 (Ne.symm hfeed.1)⟩
        simp [occursIn, List.isPrefixOf, hd.1, hd.2, ih]
    · rw [crlf_cons hc, occursIn, occursIn, ih, ← crlf_cons hc, isPrefixOf_crlf hreturn hfeed]

end Words

/-! ## Lower case -/

/-- Characters without a case of their own are looked through. -/
theorem nextIsCased_cons (c : Char) (cs : List Char) :
    nextIsCased (c :: cs) = if isCaseIgnorable c then nextIsCased cs else isCased c := by
  rw [nextIsCased, List.dropWhile_cons]
  split_ifs <;> rfl

/-- The letter next to a sigma is looked for on the same line. -/
theorem nextIsCased_crlf (cs : List Char) : nextIsCased (crlf cs) = nextIsCased cs := by
  induction cs with
  | nil => rfl
  | cons c cs ih =>
    by_cases hc : c = '\n'
    · subst hc
      have hend : isCaseIgnorable '\r' = false ∧ isCased '\r' = false ∧
          isCaseIgnorable '\n' = false ∧ isCased '\n' = false := by decide +kernel
      simp [nextIsCased_cons, hend]
    · rw [crlf_cons hc, nextIsCased_cons, nextIsCased_cons, ih]

/-- Of what stands in front of a text only the nearest letter matters. -/
theorem lowerAfter_congr {before before' : List Char}
    (h : nextIsCased before = nextIsCased before') (cs : List Char) :
    lowerAfter before cs = lowerAfter before' cs := by
  induction cs generalizing before before' with
  | nil => rfl
  | cons c cs ih =>
    have hnext : nextIsCased (c :: before) = nextIsCased (c :: before') := by
      rw [nextIsCased_cons, nextIsCased_cons, h]
    rw [lowerAfter, lowerAfter, ih hnext, h]

/-- No capital has a carriage return as its small letter. -/
theorem thirteen_lt_of_mem_lowerRuns : ∀ run ∈ lowerRuns, 13 < run.first + run.shift := by
  decide +kernel

/-- What is beyond ASCII does not become a half of a line end. -/
theorem lowerChar_ne_of_not_ascii {c d : Char} (hd : d = '\r' ∨ d = '\n') (h : ¬ c.toNat < 128) :
    lowerChar c ≠ d := by
  have hsmall : d.toNat ≤ 13 ∧ d.toNat ≠ 0 := by rcases hd with rfl | rfl <;> decide
  rintro rfl
  rw [lowerChar, if_neg h] at hsmall
  split_ifs at hsmall with hdotted
  · exact absurd hsmall.1 (by decide)
  · cases hfind : lowerRuns.find? (·.holds c.toNat) with
    | none =>
      simp only [hfind] at hsmall
      omega
    | some run =>
      have hholds := List.find?_some hfind
      rw [CaseRun.holds, Bool.and_eq_true, Bool.and_eq_true, decide_eq_true_eq] at hholds
      -- A run of capitals is shifted as a whole, and each of them beyond the first one further
      -- still.
      have hrun := thirteen_lt_of_mem_lowerRuns run (List.mem_of_find?_eq_some hfind)
      simp only [hfind, Char.toNat_ofNat] at hsmall
      split_ifs at hsmall <;> omega

/-- No other character becomes a half of a line end. -/
theorem eq_of_lowerChar_eq {c d : Char} (hd : d = '\r' ∨ d = '\n') (h : lowerChar c = d) :
    c = d := by
  by_cases hascii : c.toNat < 128
  · have hsmall : ∀ n < 128, (Char.ofNat n).toLower = '\r' ∨ (Char.ofNat n).toLower = '\n' →
        (Char.ofNat n).toLower = Char.ofNat n := by decide +kernel
    have hc := hsmall c.toNat hascii
    rw [Char.ofNat_toNat, ← lowerChar_of_ascii hascii, h] at hc
    exact (hc hd).symm
  · exact absurd h (lowerChar_ne_of_not_ascii hd hascii)

/-- What a character becomes between two texts, of which the first one is held in reverse order. -/
def lowerBetween (before : List Char) (c : Char) (rest : List Char) : List Char :=
  if c = 'Σ' then if nextIsCased before && !nextIsCased rest then ['ς'] else ['σ']
  else if c = 'İ' then ['i', Char.ofNat 0x307]
  else [lowerChar c]

/-- A text is put into small letters one character after the other, each with what stood before
it. -/
theorem lowerAfter_cons (before : List Char) (c : Char) (rest : List Char) :
    lowerAfter before (c :: rest) =
      lowerBetween before c rest ++ lowerAfter (c :: before) rest := rfl

/-- No half of a line end comes from another character. -/
theorem eq_of_mem_lowerBetween {d : Char} (hd : d = '\r' ∨ d = '\n') {before rest : List Char}
    {c : Char} (h : d ∈ lowerBetween before c rest) : c = d := by
  have hne : d ≠ 'ς' ∧ d ≠ 'σ' ∧ d ≠ 'i' ∧ d ≠ Char.ofNat 0x307 := by
    rcases hd with rfl | rfl <;> decide
  rw [lowerBetween] at h
  split_ifs at h
  · exact absurd (List.mem_singleton.1 h) hne.1
  · exact absurd (List.mem_singleton.1 h) hne.2.1
  · simp [hne.2.2] at h
  · exact eq_of_lowerChar_eq hd (List.mem_singleton.1 h).symm

/-- Putting a text into small letters adds no carriage return. -/
theorem return_notMem_lowerAfter {cs : List Char} (h : '\r' ∉ cs) (before : List Char) :
    '\r' ∉ lowerAfter before cs := by
  induction cs generalizing before with
  | nil => exact h
  | cons c cs ih =>
    rw [List.mem_cons, not_or] at h
    rw [lowerAfter_cons, List.mem_append, not_or]
    exact ⟨fun hmem => h.1 (eq_of_mem_lowerBetween (.inl rfl) hmem).symm, ih h.2 _⟩

/-- A text has the same small letters with either line end: a line end has no case and breaks a word
either way. -/
theorem lowerAfter_crlf (before cs : List Char) :
    lowerAfter before (crlf cs) = crlf (lowerAfter before cs) := by
  induction cs generalizing before with
  | nil => rfl
  | cons c cs ih =>
    by_cases hc : c = '\n'
    · subst hc
      -- A line end hides what stands in front of it, with and without a carriage return.
      have hbefore : nextIsCased ('\n' :: '\r' :: before) = nextIsCased ('\n' :: before) := by
        have hend : isCaseIgnorable '\n' = false := by decide +kernel
        simp [nextIsCased_cons, hend]
      rw [crlf_newline, lowerAfter_cons, lowerAfter_cons, lowerAfter_congr hbefore, ih]
      rfl
    · have hhere : '\n' ∉ lowerBetween before c cs := fun hmem =>
        hc (eq_of_mem_lowerBetween (.inr rfl) hmem)
      have hsame : lowerBetween before c (crlf cs) = lowerBetween before c cs := by
        rw [lowerBetween, lowerBetween, nextIsCased_crlf]
      rw [crlf_cons hc, lowerAfter_cons, lowerAfter_cons, crlf_append, crlf_eq_self hhere, hsame,
        ih]

/-- The lines of a text are put into lower case one by one, whatever their ends are. -/
theorem lower_crlf (cs : List Char) : lower (crlf cs) = crlf (lower cs) := lowerAfter_crlf [] cs

end PackageLint.Text
