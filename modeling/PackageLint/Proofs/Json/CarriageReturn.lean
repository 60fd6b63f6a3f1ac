import Mathlib
import PackageLint.Json.Reader
import PackageLint.Proofs.Text.CarriageReturn

/-!
# Reading JSON with either line end

A line end between the tokens of a document is skipped, whatever it is made of, and inside of a
text it is a flaw, whatever it is made of. A document that is written with carriage returns before
its line feeds is therefore the same document, and a text that is no document has the same flaw.

The readers are compared part by part, always on a text with line feeds alone and on the same text
with carriage returns before them. The reader of values is given fuel for both.

## Main definitions

* `ReadsAlike`: two readings give the same value or find the same flaw;
* `CoversAlike`: fuel with which this is so for every text that it covers.

## Main results

* `readText_alike` and `readAtom_alike`: what has no parts;
* `coversAlike`: values, items and entries, by induction on the fuel;
* `read?_crlf` and `read_crlf`: whole documents.
-/

namespace PackageLint.Json

open Text

/-- A reading of a text with carriage returns before its line feeds, and a reading of the text
without them. Both give the same value, and what the second one leaves over is shorter than `size`;
or both find the same flaw. -/
inductive ReadsAlike {α : Type} (size : Nat) :
    Except Stop (α × List Char) → Except Stop (α × List Char) → Prop
  | ok (a : α) {rest : List Char} (hrest : rest.length < size) :
      ReadsAlike size (.ok (a, crlf rest)) (.ok (a, rest))
  | error (flaw : Flaw) (m n : Nat) : ReadsAlike size (.error ⟨flaw, m⟩) (.error ⟨flaw, n⟩)

namespace ReadsAlike

variable {α β : Type} {x y : Except Stop (α × List Char)} {size size' : Nat}

/-- Readings that are alike within a size are alike within a larger one. -/
theorem mono (h : ReadsAlike size x y) (hsize : size ≤ size') : ReadsAlike size' x y := by
  cases h with
  | ok a hrest => exact .ok a (by omega)
  | error flaw m n => exact .error flaw m n

/-- What is made of the value does not matter. -/
theorem map (h : ReadsAlike size x y) (f : α → β) :
    ReadsAlike size (x.map fun p => (f p.1, p.2)) (y.map fun p => (f p.1, p.2)) := by
  cases h with
  | ok a hrest => exact .ok (f a) hrest
  | error flaw m n => exact .error flaw m n

end ReadsAlike

/-- Line ends are blank with and without their carriage returns, so both are skipped together. -/
theorem skipSpaces_crlf (cs : List Char) : skipSpaces (crlf cs) = crlf (skipSpaces cs) :=
  dropWhile_crlf rfl cs

theorem length_skipSpaces_le (cs : List Char) : (skipSpaces cs).length ≤ cs.length :=
  (List.dropWhile_sublist _).length_le

/-! ## Escapes -/

/-- Where a character is no hexadecimal digit there is no number. -/
theorem hexNumber?_eq_none {cs : List Char} {c : Char} (hc : c ∈ cs) (h : hexValue? c = none) :
    hexNumber? cs = none := by
  have hnone (ds : List Char) : ds.foldl (fun n? c => n?.bind fun n =>
      (hexValue? c).map (16 * n + ·)) none = none := by
    induction ds with
    | nil => rfl
    | cons d ds ih => exact ih
  obtain ⟨front, back, rfl⟩ := List.append_of_mem hc
  rw [hexNumber?, List.foldl_append, List.foldl_cons, h]
  simp [hnone]

/-- A character among the four that is no hexadecimal digit spoils an escape by code point. -/
theorem codePoint_eq_error_of_mem {cs : List Char} {c : Char} (hc : c ∈ cs.take 4)
    (h : hexValue? c = none) : ∃ n, codePoint cs = .error ⟨.unicodeEscape, n⟩ := by
  rw [codePoint, hexNumber?_eq_none hc h]
  split_ifs
  · exact ⟨_, rfl⟩
  · exact ⟨_, rfl⟩

/-- An escape in a text with carriage returns before its line feeds, and the same escape without
them. -/
inductive EscapesAlike (cs : List Char) : Except Stop (Char × Nat) → Except Stop (Char × Nat) → Prop
  | ok (c : Char) {width : Nat} (hdrop : (crlf cs).drop width = crlf (cs.drop width)) :
      EscapesAlike cs (.ok (c, width)) (.ok (c, width))
  | error (flaw : Flaw) (m n : Nat) : EscapesAlike cs (.error ⟨flaw, m⟩) (.error ⟨flaw, n⟩)
  /-- The second half of a pair is broken off by a line end near the end of the text. A carriage
  return more, and this is found in the first half; else it is found in the second one. -/
  | late (m : Nat) (c : Char) {width : Nat}
      (hlate : ∀ start, ∃ n, readText start (cs.drop width) = .error ⟨.unicodeEscape, n⟩) :
      EscapesAlike cs (.error ⟨.unicodeEscape, m⟩) (.ok (c, width))

section CodePoint

variable {cs rest : List Char} {high : Nat}

/-- Four digits with an escape right behind them may be the first half of a pair. -/
theorem codePoint_of_pair (hlength : ¬ cs.length < 5) (hhigh : hexNumber? (cs.take 4) = some high)
    (hrest : cs.drop 4 = '\\' :: 'u' :: rest) : codePoint cs = pairWith high rest := by
  rw [codePoint, if_neg hlength, hhigh, hrest]
  rfl

/-- Four digits with anything else behind them stand for a character of their own. -/
theorem codePoint_of_single (hlength : ¬ cs.length < 5) (hhigh : hexNumber? (cs.take 4) = some high)
    (hrest : ∀ rest, cs.drop 4 ≠ '\\' :: 'u' :: rest) : codePoint cs = .ok (charOf high, 4) := by
  rw [codePoint, if_neg hlength, hhigh]
  simp only

/-- With too little text left for a second half, the first one stands for itself. -/
theorem pairWith_of_length_lt (h : rest.length < 5) : pairWith high rest = .ok (charOf high, 4) :=
  if_neg fun hcondition => absurd hcondition.2.2 (by omega)

/-- A half whose other half is broken off is no number. -/
theorem readText_of_length_lt (h : rest.length < 5) (start : Nat) :
    ∃ n, readText start ('\\' :: 'u' :: rest) = .error ⟨.unicodeEscape, n⟩ := by
  rw [readText, escaped, codePoint, if_pos h]
  exact ⟨_, rfl⟩

/-- Behind a first half there have to be four digits, if there is room for them. -/
theorem pairWith_eq_error_of_mem (hhalf : 0xD800 ≤ high ∧ high < 0xDC00) (hlength : 5 ≤ rest.length)
    {c : Char} (hc : c ∈ rest.take 4) (h : hexValue? c = none) :
    pairWith high rest = .error ⟨.unicodeEscape, rest.length + 1⟩ := by
  rw [pairWith, if_pos ⟨hhalf.1, hhalf.2, hlength⟩, hexNumber?_eq_none hc h]

/-- A pair is read alike, but for a line end so near to the end of the text that the carriage return
makes the room which a second half asks for. -/
theorem pairWith_alike (hdrop : (crlf cs).drop 4 = crlf (cs.drop 4))
    (hrest : cs.drop 4 = '\\' :: 'u' :: rest) :
    EscapesAlike cs (pairWith high (crlf rest)) (pairWith high rest) := by
  have hlength := length_le_length_crlf rest
  by_cases hhalf : 0xD800 ≤ high ∧ high < 0xDC00
  swap
  -- No pair begins here.
  · rw [pairWith, pairWith, if_neg fun h => hhalf ⟨h.1, h.2.1⟩, if_neg fun h => hhalf ⟨h.1, h.2.1⟩]
    exact .ok _ hdrop
  by_cases hline : '\n' ∈ rest.take 4
  · have hreturn := return_mem_take_crlf hline
    by_cases hlong : 5 ≤ rest.length
    · rw [pairWith_eq_error_of_mem hhalf hlong hline rfl,
        pairWith_eq_error_of_mem hhalf (by omega) hreturn rfl]
      exact .error _ _ _
    have hshort : rest.length < 5 := by omega
    rw [pairWith_of_length_lt hshort]
    by_cases hlong' : 5 ≤ (crlf rest).length
    · rw [pairWith_eq_error_of_mem hhalf hlong' hreturn rfl]
      refine .late _ _ fun start => ?_
      rw [hrest]
      exact readText_of_length_lt (by omega) start
    · rw [pairWith_of_length_lt (by omega)]
      exact .ok _ hdrop
  by_cases hlong : 5 ≤ rest.length
  · obtain ⟨htake, hdrop'⟩ := take_crlf_and_drop_crlf hline
    rw [pairWith, pairWith, if_pos ⟨hhalf.1, hhalf.2, hlong.trans hlength⟩,
      if_pos ⟨hhalf.1, hhalf.2, hlong⟩, htake]
    cases hexNumber? (rest.take 4) with
    | none => exact .error _ _ _
    | some low =>
      simp only
      split_ifs
      · refine .ok _ ?_
        have hten (ds : List Char) : ds.drop 10 = (ds.drop 4).drop 6 := by rw [List.drop_drop]
        rw [hten, hten, hdrop, hrest, crlf_cons (by decide), crlf_cons (by decide)]
        exact hdrop'
      · exact .ok _ hdrop
  · rw [List.take_of_length_le (by omega)] at hline
    rw [crlf_eq_self hline, pairWith_of_length_lt (by omega)]
    exact .ok _ hdrop

end CodePoint

/-- An escape by code point is read alike. -/
theorem codePoint_alike (cs : List Char) :
    EscapesAlike cs (codePoint (crlf cs)) (codePoint cs) := by
  have hreturn : hexValue? '\r' = none := rfl
  have hfeed : hexValue? '\n' = none := rfl
  by_cases hline : '\n' ∈ cs.take 4
  -- A line end among the four digits is no digit.
  · obtain ⟨m, hm⟩ := codePoint_eq_error_of_mem (return_mem_take_crlf hline) hreturn
    obtain ⟨n, hn⟩ := codePoint_eq_error_of_mem hline hfeed
    rw [hm, hn]
    exact .error _ _ _
  obtain ⟨htake, hdrop⟩ := take_crlf_and_drop_crlf hline
  by_cases hshort : cs.length < 5
  · rw [List.take_of_length_le (by omega)] at hline
    rw [crlf_eq_self hline, codePoint, if_pos hshort]
    exact .error _ _ _
  have hlong : ¬ (crlf cs).length < 5 := by
    have := length_le_length_crlf cs
    omega
  cases hhigh : hexNumber? (cs.take 4) with
  | none =>
    rw [codePoint, codePoint, if_neg hshort, if_neg hlong, htake, hhigh]
    exact .error _ _ _
  | some high =>
    by_cases hpair : ∃ rest, cs.drop 4 = '\\' :: 'u' :: rest
    · obtain ⟨rest, hrest⟩ := hpair
      have hrest' : (crlf cs).drop 4 = '\\' :: 'u' :: crlf rest := by
        rw [hdrop, hrest, crlf_cons (by decide), crlf_cons (by decide)]
      rw [codePoint_of_pair hshort hhigh hrest, codePoint_of_pair hlong (htake ▸ hhigh) hrest']
      exact pairWith_alike hdrop hrest
    · rw [not_exists] at hpair
      rw [codePoint_of_single hshort hhigh hpair, codePoint_of_single hlong (htake ▸ hhigh) ?_]
      · exact .ok _ hdrop
      · intro rest heq
        cases htail : cs.drop 4 with
        | nil =>
          rw [hdrop, htail] at heq
          cases heq
        | cons c tail =>
          rw [hdrop, htail] at heq
          by_cases hc : c = '\n'
          · subst hc
            exact absurd (List.cons.inj heq).1 (by decide)
          · rw [crlf_cons hc] at heq
            obtain ⟨rfl, htail'⟩ := List.cons.inj heq
            have hsecond : ∀ rest, tail ≠ 'u' :: rest := fun rest h => hpair rest (by rw [htail, h])
            exact crlf_ne_cons (by decide) (by decide) hsecond rest htail'

/-- What holds of the digits of an escape holds with the letter in front of them. -/
theorem EscapesAlike.behind_u {cs : List Char} {x y : Except Stop (Char × Nat)}
    (h : EscapesAlike cs x y) :
    EscapesAlike ('u' :: cs) (x.map fun p => (p.1, p.2 + 1)) (y.map fun p => (p.1, p.2 + 1)) := by
  cases h with
  | ok c hdrop => exact .ok c hdrop
  | error flaw m n => exact .error flaw m n
  | late m c hlate => exact .late m c hlate

/-- Every escape is read alike: none of them takes in a line end. -/
theorem escaped_alike (start start' : Nat) (cs : List Char) :
    EscapesAlike cs (escaped start' (crlf cs)) (escaped start cs) := by
  fun_cases escaped start cs
  case case1 => exact .error _ _ _
  case case2 cs => exact (codePoint_alike cs).behind_u
  case case11 c cs _ _ _ _ _ _ _ _ _ =>
    by_cases hc : c = '\n'
    · subst hc
      exact .error .escape _ _
    · rw [crlf_cons hc, escaped.eq_11]
      · exact .error _ _ _
      all_goals assumption
  -- The escapes of a single letter.
  all_goals exact .ok _ rfl

/-! ## Texts -/

/-- Behind an escape the text goes on. -/
theorem readText_backslash_alike {start start' : Nat} {cs : List Char}
    (hbehind : ∀ width, ReadsAlike (cs.drop width).length
      (readText start' (crlf (cs.drop width))) (readText start (cs.drop width))) :
    ReadsAlike (cs.length + 1) (readText start' ('\\' :: crlf cs))
      (readText start ('\\' :: cs)) := by
  have halike := escaped_alike start start' cs
  rw [readText, readText]
  generalize escaped start' (crlf cs) = x at halike
  generalize escaped start cs = y at halike
  cases halike with
  | error flaw m n => exact .error _ _ _
  -- The flaw that one reader finds in the escape, the other one finds right behind it.
  | late m c hlate =>
    obtain ⟨n, hn⟩ := hlate start
    simp only [hn]
    exact .error _ _ _
  | @ok c width hdrop =>
    have hrest := hbehind width
    simp only [hdrop]
    generalize readText start' (crlf (cs.drop width)) = x at hrest
    generalize readText start (cs.drop width) = y at hrest
    cases hrest with
    | error flaw m n => exact .error _ _ _
    | ok text hlt =>
      rw [List.length_drop] at hlt
      exact .ok _ (by omega)

/-- A text is read alike: a line end in it is a control character in both forms. -/
theorem readText_alike (start start' : Nat) (cs : List Char) :
    ReadsAlike cs.length (readText start' (crlf cs)) (readText start cs) := by
  -- An escape takes several characters at once, so the induction is on the length.
  induction hn : cs.length using Nat.strong_induction_on generalizing cs with
  | _ n ih =>
    subst hn
    cases cs with
    | nil =>
      rw [crlf_nil, readText, readText]
      exact .error _ _ _
    | cons c cs =>
      by_cases hquote : c = '"'
      · subst hquote
        rw [crlf_cons (by decide), readText, readText]
        exact .ok _ (by simp)
      by_cases hbackslash : c = '\\'
      · subst hbackslash
        rw [crlf_cons (by decide)]
        exact readText_backslash_alike fun width => ih _ (by simp) _ rfl
      by_cases hfeed : c = '\n'
      · subst hfeed
        rw [crlf_newline, readText.eq_4 start' _ _ (by decide) (by decide),
          readText.eq_4 start _ _ (by decide) (by decide)]
        exact .error .controlCharacter _ _
      rw [crlf_cons hfeed, readText.eq_4 _ _ _ hquote hbackslash,
        readText.eq_4 _ _ _ hquote hbackslash]
      split_ifs
      · exact .error _ _ _
      · have hrest := ih _ (by simp) cs rfl
        generalize readText start' (crlf cs) = x at hrest
        generalize readText start cs = y at hrest
        cases hrest with
        | error flaw m n => exact .error _ _ _
        | ok text hlt => exact .ok _ (by simp; omega)

/-! ## Numbers -/

/-- Digits end before a line end, and the carriage return is left over with it. So it is for each
part of a number. -/
theorem takeAsciiDigits_crlf (cs : List Char) :
    takeAsciiDigits (crlf cs) = ((takeAsciiDigits cs).1, crlf (takeAsciiDigits cs).2) := by
  rw [takeAsciiDigits, takeWhile_crlf rfl rfl, dropWhile_crlf rfl, takeAsciiDigits]

/-- The whole part of a number ends before a line end. -/
theorem takeWhole_crlf (cs : List Char) :
    takeWhole (crlf cs) = (takeWhole cs).map fun p => (p.1, crlf p.2) := by
  cases cs with
  | nil => rfl
  | cons c cs =>
    by_cases hfeed : c = '\n'
    · subst hfeed
      rfl
    rw [crlf_cons hfeed]
    by_cases hzero : c = '0'
    · subst hzero
      rfl
    rw [takeWhole.eq_2 _ _ hzero, takeWhole.eq_2 _ _ hzero, ← crlf_cons hfeed, takeAsciiDigits_crlf]
    split_ifs <;> rfl

/-- The fraction of a number ends before a line end, and a point without digits is none. -/
theorem takeFraction_crlf (cs : List Char) :
    takeFraction (crlf cs) = (takeFraction cs).map fun p => (p.1, crlf p.2) := by
  cases cs with
  | nil => rfl
  | cons c cs =>
    by_cases hfeed : c = '\n'
    · subst hfeed
      rfl
    rw [crlf_cons hfeed]
    -- What does not begin with a point is left as it is.
    by_cases hpoint : c = '.'
    swap
    · rw [takeFraction.eq_2 _ fun _ _ h => hpoint (List.cons.inj h).1,
        takeFraction.eq_2 _ fun _ _ h => hpoint (List.cons.inj h).1]
      rfl
    subst hpoint
    cases cs with
    | nil => rfl
    | cons d cs =>
      by_cases hfeed' : d = '\n'
      · subst hfeed'
        rfl
      rw [crlf_cons hfeed', takeFraction, takeFraction, ← crlf_cons hfeed', takeAsciiDigits_crlf]
      split_ifs <;> rfl

theorem takeSign_crlf (cs : List Char) :
    takeSign (crlf cs) = ((takeSign cs).1, crlf (takeSign cs).2) := by
  fun_cases takeSign cs with
  | case1 rest => rfl
  | case2 rest => rfl
  | case3 cs hminus hplus =>
    exact takeSign.eq_3 _ (crlf_ne_cons (by decide) (by decide) hminus)
      (crlf_ne_cons (by decide) (by decide) hplus)

theorem takeMinus_crlf (cs : List Char) :
    takeMinus (crlf cs) = ((takeMinus cs).1, crlf (takeMinus cs).2) := by
  fun_cases takeMinus cs with
  | case1 rest => rfl
  | case2 cs hminus => exact takeMinus.eq_2 _ (crlf_ne_cons (by decide) (by decide) hminus)

/-- The exponent of a number ends before a line end, and a letter without digits is none. -/
theorem takeExponent_crlf (cs : List Char) :
    takeExponent (crlf cs) = (takeExponent cs).map fun p => (p.1, crlf p.2) := by
  cases cs with
  | nil => rfl
  | cons c cs =>
    by_cases hfeed : c = '\n'
    · subst hfeed
      rfl
    rw [crlf_cons hfeed, takeExponent, takeExponent, takeSign_crlf]
    split_ifs
    · simp only [takeAsciiDigits_crlf]
      rcases takeAsciiDigits (takeSign cs).2 with ⟨_ | ⟨d, ds⟩, rest⟩ <;> rfl
    · rfl

/-- The fraction and the exponent behind a whole part are the same, and so is the number. -/
theorem numberFrom_crlf (negative : Bool) (whole rest : List Char) :
    numberFrom negative whole (crlf rest) =
      ((numberFrom negative whole rest).1, crlf (numberFrom negative whole rest).2) := by
  have hrest : (takeFraction (crlf rest)).elim (crlf rest) (·.2) =
      crlf ((takeFraction rest).elim rest (·.2)) := by
    rw [takeFraction_crlf]
    cases takeFraction rest <;> rfl
  simp only [numberFrom, hrest, takeExponent_crlf]
  rw [takeFraction_crlf]
  cases takeFraction rest <;> cases takeExponent _ <;> rfl

/-- A number is the same in both forms, and what is left over are both forms of the same text. -/
theorem readNumber_crlf (cs : List Char) :
    readNumber (crlf cs) = (readNumber cs).map fun p => (p.1, crlf p.2) := by
  rw [readNumber, readNumber, takeMinus_crlf]
  simp only [takeWhole_crlf, Option.map_map]
  congr 1
  funext p
  exact numberFrom_crlf _ _ _

theorem length_takeAsciiDigits_le (cs : List Char) : (takeAsciiDigits cs).2.length ≤ cs.length :=
  (List.dropWhile_sublist _).length_le

/-- The digits that start with one are not empty. -/
theorem length_takeAsciiDigits_cons_lt {c : Char} (h : c.isDigit) (cs : List Char) :
    (takeAsciiDigits (c :: cs)).2.length < (c :: cs).length := by
  rw [takeAsciiDigits, List.dropWhile_cons, if_pos h, List.length_cons]
  exact Nat.lt_succ_of_le (length_takeAsciiDigits_le cs)

/-- A whole part has at least one character. -/
theorem length_lt_of_takeWhole {cs : List Char} {p : List Char × List Char}
    (h : takeWhole cs = some p) : p.2.length < cs.length := by
  revert h
  fun_cases takeWhole cs with
  | case1 rest =>
    rintro ⟨⟩
    exact Nat.lt_succ_self _
  | case2 c rest _ hdigit =>
    rintro ⟨⟩
    exact length_takeAsciiDigits_cons_lt hdigit rest
  | case3 => nofun
  | case4 => nofun

/-- A fraction leaves over no more than there was. It may be missing. -/
theorem length_le_of_takeFraction {cs : List Char} {p : List Char × List Char}
    (h : takeFraction cs = some p) : p.2.length ≤ cs.length := by
  revert h
  fun_cases takeFraction cs with
  | case1 c rest hdigit =>
    rintro ⟨⟩
    exact Nat.le_succ_of_le (length_takeAsciiDigits_le _)
  | case2 => nofun
  | case3 => nofun

theorem length_takeSign_le (cs : List Char) : (takeSign cs).2.length ≤ cs.length := by
  fun_cases takeSign cs <;> simp

/-- An exponent leaves over no more than there was. It may be missing. -/
theorem length_le_of_takeExponent {cs : List Char} {p : Int × List Char}
    (h : takeExponent cs = some p) : p.2.length ≤ cs.length := by
  revert h
  fun_cases takeExponent cs with
  | case1 => nofun
  | case2 => nofun
  | case3 c rest _ negative body hsign ds behind _ hdigits =>
    rintro ⟨⟩
    have hbehind := length_takeAsciiDigits_le body
    have hbody := length_takeSign_le rest
    rw [hdigits] at hbehind
    rw [hsign] at hbody
    simp only [List.length_cons] at hbehind hbody ⊢
    omega
  | case4 => nofun

/-- What a number leaves over is what its exponent does, or its fraction, or its whole part. -/
theorem snd_numberFrom (negative : Bool) (whole rest : List Char) :
    (numberFrom negative whole rest).2 =
      (takeExponent ((takeFraction rest).elim rest (·.2))).elim
        ((takeFraction rest).elim rest (·.2)) (·.2) := by
  rw [numberFrom]
  split_ifs <;> rfl

/-- What stands behind a whole part leaves over no more than there was. -/
theorem length_numberFrom_le (negative : Bool) (whole rest : List Char) :
    (numberFrom negative whole rest).2.length ≤ rest.length := by
  have hfraction : ((takeFraction rest).elim rest (·.2)).length ≤ rest.length := by
    cases h : takeFraction rest with
    | none => exact le_rfl
    | some p => exact length_le_of_takeFraction h
  have hexponent (rest : List Char) :
      ((takeExponent rest).elim rest (·.2)).length ≤ rest.length := by
    cases h : takeExponent rest with
    | none => exact le_rfl
    | some p => exact length_le_of_takeExponent h
  rw [snd_numberFrom]
  exact (hexponent _).trans hfraction

/-- A number takes at least one character, which is why reading it makes progress. -/
theorem length_lt_of_readNumber {cs rest : List Char} {v : Value}
    (h : readNumber cs = some (v, rest)) : rest.length < cs.length := by
  have hminus : (takeMinus cs).2.length ≤ cs.length := by
    fun_cases takeMinus cs <;> simp
  rw [readNumber, Option.map_eq_some_iff] at h
  obtain ⟨p, hp, heq⟩ := h
  have hwhole := length_lt_of_takeWhole hp
  have hbehind := length_numberFrom_le (takeMinus cs).1 p.1 p.2
  rw [show numberFrom _ p.1 p.2 = (v, rest) from heq] at hbehind
  simp only at hbehind
  omega

/-! ## Atoms -/

/-- The names of values hold no line end, so the same one is found in both forms. -/
theorem find?_namedValues_crlf (cs : List Char) :
    namedValues.find? (·.1.isPrefixOf (crlf cs)) = namedValues.find? (·.1.isPrefixOf cs) := by
  have honeLine : ∀ p ∈ namedValues, '\r' ∉ p.1 ∧ '\n' ∉ p.1 := by decide +kernel
  exact List.find?_congr fun p hp => isPrefixOf_crlf (honeLine p hp).1 (honeLine p hp).2 cs

/-- A name is taken off in the same way, and it is not empty. -/
theorem drop_crlf_of_find?_namedValues {cs : List Char} {p : List Char × Value}
    (h : namedValues.find? (·.1.isPrefixOf cs) = some p) :
    (crlf cs).drop p.1.length = crlf (cs.drop p.1.length) ∧
      (cs.drop p.1.length).length < cs.length := by
  have honeLine : ∀ p ∈ namedValues, '\n' ∉ p.1 ∧ p.1 ≠ [] := by decide +kernel
  obtain ⟨hfeed, hne⟩ := honeLine p (List.mem_of_find?_eq_some h)
  have hprefix : (p.1.isPrefixOf cs) = true := by simpa using List.find?_some h
  obtain ⟨rest, rfl⟩ := List.isPrefixOf_iff_prefix.1 hprefix
  have hpos := List.length_pos_iff.2 hne
  rw [crlf_append, crlf_eq_self hfeed, List.drop_left, List.drop_left, List.length_append]
  exact ⟨rfl, by omega⟩

/-- A value without parts is read alike. -/
theorem readAtom_alike (cs : List Char) :
    ReadsAlike cs.length (readAtom (crlf cs)) (readAtom cs) := by
  -- A text, a name or a number, in the order in which they are tried.
  by_cases hquote : ∃ rest, cs = '"' :: rest
  · obtain ⟨rest, rfl⟩ := hquote
    rw [crlf_cons (by decide), readAtom, readAtom]
    exact ((readText_alike _ _ rest).map fun text => Value.text (.ofList text)).mono (by simp)
  rw [not_exists] at hquote
  rw [readAtom.eq_2 _ (crlf_ne_cons (by decide) (by decide) hquote), readAtom.eq_2 _ hquote,
    find?_namedValues_crlf, readNumber_crlf]
  cases hname : namedValues.find? (·.1.isPrefixOf cs) with
  | some p =>
    obtain ⟨hdrop, hlt⟩ := drop_crlf_of_find?_namedValues hname
    simp only [hdrop]
    exact .ok _ hlt
  | none =>
    cases hnumber : readNumber cs with
    | some p => exact .ok _ (length_lt_of_readNumber hnumber)
    | none => exact .error _ _ _

/-! ## Lists and tables -/

theorem head?_ne_some {cs : List Char} {c : Char} (h : ∀ tail, cs ≠ c :: tail) :
    cs.head? ≠ some c := by
  intro hhead
  obtain ⟨tail, rfl⟩ := List.head?_eq_some_iff.1 hhead
  exact h tail rfl

section Brackets

variable {α : Type}

/-- What the reader of values does behind an opening bracket: the closing one ends the value, and
anything else starts its elements. -/
def bracketedFrom (closing : Char) (elements : List Char → Except Stop (List α × List Char))
    (value : List α → Value) (cs : List Char) : Except Stop (Value × List Char) :=
  let body := skipSpaces cs
  if body.head? = some closing then .ok (value [], body.tail)
  else (elements body).map fun p => (value p.1, p.2)

/-- What the readers of lists and tables do with a value: behind it the closing bracket ends the
elements, and a comma goes on with the next ones. -/
def elementsFrom (closing : Char) (more : List Char → Except Stop (List α × List Char))
    (element : Value → α) : Except Stop (Value × List Char) → Except Stop (List α × List Char)
  | .error stop => .error stop
  | .ok (value, rest) =>
    let behind := skipSpaces rest
    if behind.head? = some closing then .ok ([element value], behind.tail)
    else if behind.head? = some ',' then
      (more (skipSpaces behind.tail)).map fun p => (element value :: p.1, p.2)
    else .error ⟨.comma, behind.length⟩

/-- A list is read as its items between brackets. -/
theorem readValue_list_succ (fuel : Nat) (rest : List Char) :
    readValue (fuel + 1) ('[' :: rest) = bracketedFrom ']' (readItems fuel) .list rest := by
  rw [readValue, bracketedFrom]
  split
  case h_1 h =>
    rw [h]
    rfl
  case h_2 h => exact (if_neg (head?_ne_some h)).symm

/-- A table is read as its entries between braces, the last one for each key. -/
theorem readValue_table_succ (fuel : Nat) (rest : List Char) :
    readValue (fuel + 1) ('\x7b' :: rest) =
      bracketedFrom '\x7d' (readEntries fuel) (fun pairs => .table (Table.ofPairs pairs)) rest := by
  rw [readValue, bracketedFrom]
  split
  case h_1 h =>
    rw [h]
    rfl
  case h_2 h => exact (if_neg (head?_ne_some h)).symm

/-- Behind an element there has to be a comma or the closing bracket. -/
theorem elementsFrom_of_ne {closing : Char} {more : List Char → Except Stop (List α × List Char)}
    {element : Value → α} {value : Value} {rest : List Char}
    (hclosing : ∀ tail, skipSpaces rest ≠ closing :: tail)
    (hcomma : ∀ tail, skipSpaces rest ≠ ',' :: tail) :
    elementsFrom closing more element (.ok (value, rest)) =
      .error ⟨.comma, (skipSpaces rest).length⟩ :=
  (if_neg (head?_ne_some hclosing)).trans (if_neg (head?_ne_some hcomma))

/-- An item of a list is a value, with further items behind it. -/
theorem readItems_succ (fuel : Nat) (cs : List Char) :
    readItems (fuel + 1) cs = elementsFrom ']' (readItems fuel) id (readValue fuel cs) := by
  rw [readItems]
  cases readValue fuel cs with
  | error stop => rfl
  | ok p =>
    simp only
    split
    case h_1 h =>
      rw [elementsFrom, h]
      rfl
    case h_2 h =>
      rw [elementsFrom, h]
      rfl
    case h_3 hclosing hcomma => exact (elementsFrom_of_ne hclosing hcomma).symm

/-- An entry of a table is a text, a colon and a value, with further entries behind it. -/
theorem readEntries_succ (fuel : Nat) (rest : List Char) :
    readEntries (fuel + 1) ('"' :: rest) =
      match readText ('"' :: rest).length rest with
      | .error stop => .error stop
      | .ok (key, behind) =>
        match skipSpaces behind with
        | ':' :: tail => elementsFrom '\x7d' (readEntries fuel) (Scalar.text (.ofList key), ·)
            (readValue fuel (skipSpaces tail))
        | behind => .error ⟨.colon, behind.length⟩ := by
  rw [readEntries]
  cases readText ('"' :: rest).length rest with
  | error stop => rfl
  | ok p =>
    simp only
    congr 1
    funext tail
    cases readValue fuel (skipSpaces tail) with
    | error stop => rfl
    | ok q =>
      simp only
      split
      case h_1 h =>
        rw [elementsFrom, h]
        rfl
      case h_2 h =>
        rw [elementsFrom, h]
        rfl
      -- Only the match on what follows has to be told from the tests of `elementsFrom`.
      case h_3 hclosing hcomma => exact (elementsFrom_of_ne hclosing hcomma).symm

variable {closing : Char} {more more' : List Char → Except Stop (List α × List Char)}

/-- The closing bracket is looked for behind any line ends. -/
theorem bracketedFrom_alike (hclosing : closing ≠ '\r' ∧ closing ≠ '\n') (value : List α → Value)
    {rest : List Char} (hmore : ∀ cs : List Char, cs.length ≤ rest.length →
      ReadsAlike cs.length (more' (crlf cs)) (more cs)) :
    ReadsAlike (rest.length + 1) (bracketedFrom closing more' value (crlf rest))
      (bracketedFrom closing more value rest) := by
  have hskip := length_skipSpaces_le rest
  rw [bracketedFrom, bracketedFrom, skipSpaces_crlf]
  generalize skipSpaces rest = body at hskip
  simp only [head?_crlf_eq_some_iff hclosing.1 hclosing.2]
  split_ifs with hclose
  · rw [tail_crlf hclosing.2 hclose]
    exact .ok _ (by simp; omega)
  · exact ((hmore body hskip).map value).mono (by omega)

/-- The closing bracket and the comma are looked for behind any line ends. -/
theorem elementsFrom_alike (hclosing : closing ≠ '\r' ∧ closing ≠ '\n') (element : Value → α)
    {size : Nat} {x y : Except Stop (Value × List Char)} (h : ReadsAlike size x y)
    (hmore : ∀ cs : List Char, cs.length + 2 ≤ size →
      ReadsAlike cs.length (more' (crlf cs)) (more cs)) :
    ReadsAlike size (elementsFrom closing more' element x)
      (elementsFrom closing more element y) := by
  cases h with
  | error flaw m n => exact .error _ _ _
  | @ok value rest hrest =>
    have hskip := length_skipSpaces_le rest
    -- Neither the closing bracket nor the comma is half of a line end, so the next character is the
    -- same.
    have hcomma : ',' ≠ '\r' ∧ ',' ≠ '\n' := by decide
    rw [elementsFrom, elementsFrom, skipSpaces_crlf]
    generalize skipSpaces rest = behind at hskip
    simp only [head?_crlf_eq_some_iff hclosing.1 hclosing.2,
      head?_crlf_eq_some_iff hcomma.1 hcomma.2]
    split_ifs with hclose hnext
    · rw [tail_crlf hclosing.2 hclose]
      exact .ok _ (by simp; omega)
    · obtain ⟨tail, rfl⟩ := List.head?_eq_some_iff.1 hnext
      have hlength := length_skipSpaces_le tail
      rw [List.length_cons] at hskip
      rw [tail_crlf hcomma.2 hnext, List.tail_cons, skipSpaces_crlf]
      exact ((hmore (skipSpaces tail) (by omega)).map _).mono (by omega)
    · exact .error _ _ _

end Brackets

/-! ## Values -/

/-- With so much fuel the readers read both texts alike, as long as it covers the shorter one. -/
structure CoversAlike (fuel fuel' : Nat) : Prop where
  value : ∀ cs : List Char, 2 * cs.length + 1 ≤ fuel →
    ReadsAlike cs.length (readValue fuel' (crlf cs)) (readValue fuel cs)
  items : ∀ cs : List Char, 2 * cs.length + 2 ≤ fuel →
    ReadsAlike cs.length (readItems fuel' (crlf cs)) (readItems fuel cs)
  entries : ∀ cs : List Char, 2 * cs.length + 2 ≤ fuel →
    ReadsAlike cs.length (readEntries fuel' (crlf cs)) (readEntries fuel cs)

namespace CoversAlike

variable {fuel fuel' : Nat} {cs : List Char}

/-- Fuel that covers the parts of a text makes its value read alike, with one step more. -/
theorem value_succ (h : CoversAlike fuel fuel') (hfuel : 2 * cs.length ≤ fuel) :
    ReadsAlike cs.length (readValue (fuel' + 1) (crlf cs)) (readValue (fuel + 1) cs) := by
  -- The brackets tell lists and tables apart from what has no parts.
  by_cases hlist : ∃ rest, cs = '[' :: rest
  · obtain ⟨rest, rfl⟩ := hlist
    rw [List.length_cons] at hfuel
    rw [crlf_cons (by decide), readValue_list_succ, readValue_list_succ]
    exact bracketedFrom_alike (by decide) _ fun body hbody => h.items body (by omega)
  by_cases htable : ∃ rest, cs = '\x7b' :: rest
  · obtain ⟨rest, rfl⟩ := htable
    rw [List.length_cons] at hfuel
    rw [crlf_cons (by decide), readValue_table_succ, readValue_table_succ]
    exact bracketedFrom_alike (by decide) _ fun body hbody => h.entries body (by omega)
  rw [not_exists] at hlist htable
  rw [readValue.eq_4 _ _ hlist htable, readValue.eq_4 _ _
    (crlf_ne_cons (by decide) (by decide) hlist) (crlf_ne_cons (by decide) (by decide) htable)]
  exact readAtom_alike cs

/-- Fuel that covers the parts of a text makes its items read alike, with one step more. -/
theorem items_succ (h : CoversAlike fuel fuel') (hfuel : 2 * cs.length + 1 ≤ fuel) :
    ReadsAlike cs.length (readItems (fuel' + 1) (crlf cs)) (readItems (fuel + 1) cs) := by
  rw [readItems_succ, readItems_succ]
  exact elementsFrom_alike (by decide) id (h.value cs hfuel) fun tail htail =>
    h.items tail (by omega)

/-- An entry is a key, a colon and a value; behind it the entries go on as items do. -/
theorem entries_succ (h : CoversAlike fuel fuel') (hfuel : 2 * cs.length + 1 ≤ fuel) :
    ReadsAlike cs.length (readEntries (fuel' + 1) (crlf cs)) (readEntries (fuel + 1) cs) := by
  by_cases hquote : ∃ rest, cs = '"' :: rest
  swap
  · rw [not_exists] at hquote
    rw [readEntries.eq_3 _ _ hquote,
      readEntries.eq_3 _ _ (crlf_ne_cons (by decide) (by decide) hquote)]
    exact .error _ _ _
  obtain ⟨rest, rfl⟩ := hquote
  rw [List.length_cons] at hfuel ⊢
  have hkey := readText_alike ('"' :: rest).length ('"' :: crlf rest).length rest
  rw [crlf_cons (by decide), readEntries_succ, readEntries_succ]
  -- From here on only what the two readings of the key share is used.
  generalize readText _ (crlf rest) = x at hkey
  generalize readText _ rest = y at hkey
  cases hkey with
  | error flaw m n => exact .error _ _ _
  | @ok key behind hbehind =>
    have hskip := length_skipSpaces_le behind
    simp only [skipSpaces_crlf]
    by_cases hcolon : ∃ tail, skipSpaces behind = ':' :: tail
    · obtain ⟨tail, htail⟩ := hcolon
      have hlength := length_skipSpaces_le tail
      rw [htail, List.length_cons] at hskip
      rw [htail, crlf_cons (by decide)]
      simp only [skipSpaces_crlf]
      refine (elementsFrom_alike (by decide) _ (h.value (skipSpaces tail) (by omega))
        fun next hnext => h.entries next (by omega)).mono (by omega)
    · rw [not_exists] at hcolon
      have hcolon' := crlf_ne_cons (by decide) (by decide) hcolon
      simp only
      exact .error _ _ _

end CoversAlike

/-- More fuel is no harm. -/
theorem coversAlike {fuel fuel' : Nat} (h : fuel ≤ fuel') : CoversAlike fuel fuel' := by
  induction fuel generalizing fuel' with
  | zero =>
    refine ⟨?_, ?_, ?_⟩ <;> (intro cs hcs; omega)
  | succ fuel ih =>
    -- Both readers spend their fuel at the same places.
    obtain ⟨fuel', rfl⟩ : ∃ n, fuel' = n + 1 := ⟨fuel' - 1, by omega⟩
    have hfuel : CoversAlike fuel fuel' := ih (by omega)
    exact ⟨fun cs hcs => hfuel.value_succ (by omega), fun cs hcs => hfuel.items_succ (by omega),
      fun cs hcs => hfuel.entries_succ (by omega)⟩

/-! ## Whole texts -/

/-- A text writes the same value with either line end, or has the same flaw. -/
theorem readWhole_crlf (cs : List Char) :
    (∃ v, readWhole (crlf cs) = .ok v ∧ readWhole cs = .ok v) ∨
      ∃ flaw m n, readWhole (crlf cs) = .error ⟨flaw, m⟩ ∧ readWhole cs = .error ⟨flaw, n⟩ := by
  rw [readWhole, readWhole]
  by_cases hmark : cs.head? = some (Char.ofNat 0xFEFF)
  · rw [if_pos hmark, if_pos ((head?_crlf_eq_some_iff (by decide) (by decide)).2 hmark)]
    exact .inr ⟨_, _, _, rfl, rfl⟩
  rw [if_neg hmark, if_neg (mt (head?_crlf_eq_some_iff (by decide) (by decide)).1 hmark),
    skipSpaces_crlf]
  have hlength := length_le_length_crlf cs
  have hskip := length_skipSpaces_le cs
  have hcovers : CoversAlike (2 * cs.length + 2) (2 * (crlf cs).length + 2) :=
    coversAlike (by omega)
  have hvalue := hcovers.value (skipSpaces cs) (by omega)
  generalize readValue _ (crlf (skipSpaces cs)) = x at hvalue
  generalize readValue _ (skipSpaces cs) = y at hvalue
  cases hvalue with
  | error flaw m n => exact .inr ⟨_, _, _, rfl, rfl⟩
  | @ok v rest _ =>
    simp only [skipSpaces_crlf]
    cases skipSpaces rest with
    | nil => exact .inl ⟨_, rfl, rfl⟩
    | cons c behind =>
      -- What follows the value is not empty with carriage returns either.
      have hpos : 0 < (crlf (c :: behind)).length :=
        Nat.lt_of_lt_of_le (Nat.succ_pos behind.length) (length_le_length_crlf (c :: behind))
      obtain ⟨d, tail, htail⟩ := List.exists_cons_of_length_pos hpos
      rw [htail]
      exact .inr ⟨_, _, _, rfl, rfl⟩

/-- A text is the same document with and without carriage returns. -/
theorem read?_crlf (cs : List Char) : read? (crlf cs) = read? cs := by
  rw [read?, read?]
  obtain ⟨v, hcrlf, h⟩ | ⟨flaw, m, n, hcrlf, h⟩ := readWhole_crlf cs
  · rw [hcrlf, h]
  · rw [hcrlf, h]
    rfl

/-- A text that is read as a document is read as the same one with either line end; for one that is
not, the wording of what is wrong stays and only its place may change. -/
theorem read_crlf (cs : List Char) :
    (∃ v, read (crlf cs) = .ok v ∧ read cs = .ok v) ∨
      ∃ failure failure', read (crlf cs) = .error failure' ∧ read cs = .error failure ∧
        failure'.flaw = failure.flaw := by
  rw [read, read]
  obtain ⟨v, hcrlf, h⟩ | ⟨flaw, m, n, hcrlf, h⟩ := readWhole_crlf cs
  · rw [hcrlf, h]
    exact .inl ⟨v, rfl, rfl⟩
  · rw [hcrlf, h]
    exact .inr ⟨_, _, rfl, rfl, rfl⟩

end PackageLint.Json
