import Mathlib
import PackageLint.Proofs.Json.CarriageReturn
import PackageLint.Proofs.Json.RoundTrip
import PackageLint.Proofs.Outcome
import PackageLint.Text.Blank

/-!
# JSON among blanks

A document between braces is read up to its closing brace, whatever stands behind it. Around such a
document the reader skips the spaces between tokens. Any other blank is a flaw: in front of the
document it is taken for the start of a value, behind it for more data.

The readers are compared part by part, on a text and on the same text with more behind it. A text
ends with its quote, a name is not the start of another one, and a list or a table ends with its
bracket. Only a number does not tell its end: it ends in front of what no number goes on with, and
between brackets this is so behind every value.

## Main definitions

* `EndsNumber`: what no number goes on with;
* `ReadsBefore` and `CoversBefore`: readers that read the same with more behind the text;
* `IsSpaces`: blanks between tokens.

## Main results

* `readText_append`, `readNumber_append` and `readAtom_append`: what has no parts;
* `coversBefore`: values, items and entries, by induction on the fuel;
* `read_of_isSpaces`, `flaw_of_not_isSpaces_back` and `flaw_of_not_isSpaces_front`: a document
  between braces with blanks around it.
-/

namespace PackageLint.Json

open Text

/-- The first character stays with more behind it. -/
theorem append_ne_cons {cs : List Char} {c : Char} (hne : cs ≠ []) (h : ∀ body, cs ≠ c :: body)
    (t body : List Char) : cs ++ t ≠ c :: body := by
  obtain ⟨d, cs, rfl⟩ := List.exists_cons_of_ne_nil hne
  intro heq
  exact h cs (by rw [(List.cons.inj heq).1])

/-! ## Texts -/

section Texts

variable {start start' : Nat} {cs rest text : List Char} {c : Char} {width : Nat}

/-- The end of a text has to be written, so from nothing no text is read. -/
theorem ne_nil_of_readText {p : List Char × List Char} (h : readText start cs = .ok p) :
    cs ≠ [] := by
  rintro rfl
  rw [readText] at h
  cases h

/-- Where there is room for a second half, more text behind it makes no difference. -/
theorem pairWith_append {high : Nat} {p : Char × Nat} (h : pairWith high rest = .ok p)
    (hlong : 5 ≤ rest.length) (t : List Char) : pairWith high (rest ++ t) = .ok p := by
  -- The digits of a second half are there already, so nothing is taken of what is behind.
  have htake : (rest ++ t).take 4 = rest.take 4 := List.take_append_of_le_length (by omega)
  have hlong' : 5 ≤ (rest ++ t).length := by
    rw [List.length_append]
    omega
  rw [pairWith] at h ⊢
  rw [htake]
  by_cases hhalf : 0xD800 ≤ high ∧ high < 0xDC00
  · rw [if_pos ⟨hhalf.1, hhalf.2, hlong⟩] at h
    rw [if_pos ⟨hhalf.1, hhalf.2, hlong'⟩]
    cases hlow : hexNumber? (rest.take 4) with
    | none =>
      rw [hlow] at h
      cases h
    | some low =>
      rw [hlow] at h
      exact h
  · rw [if_neg fun hpair => hhalf ⟨hpair.1, hpair.2.1⟩] at h ⊢
    exact h

/-- A text does not end between a backslash and its escape, so no half of a pair is begun at the end
of what is read. -/
theorem append_ne_of_readText {p : List Char × List Char} (hread : readText start cs = .ok p)
    (h : ∀ behind, cs ≠ '\\' :: 'u' :: behind) (t behind : List Char) :
    cs ++ t ≠ '\\' :: 'u' :: behind := by
  intro heq
  match cs with
  | [] => exact ne_nil_of_readText hread rfl
  | [d] =>
    obtain ⟨rfl, -⟩ := List.cons.inj heq
    rw [readText, escaped] at hread
    cases hread
  | d :: d' :: tail =>
    obtain ⟨rfl, htail⟩ := List.cons.inj heq
    obtain ⟨rfl, -⟩ := List.cons.inj htail
    exact h tail rfl

/-- An escape is the same with more behind the text that it stands in. -/
theorem codePoint_append (h : codePoint cs = .ok (c, width))
    (hrest : ∃ p, readText start (cs.drop width) = .ok p) (t : List Char) :
    codePoint (cs ++ t) = .ok (c, width) := by
  by_cases hshort : cs.length < 5
  · rw [codePoint, if_pos hshort] at h
    cases h
  have hlong : ¬ (cs ++ t).length < 5 := by
    rw [List.length_append]
    omega
  have htake : (cs ++ t).take 4 = cs.take 4 := List.take_append_of_le_length (by omega)
  have hdrop : (cs ++ t).drop 4 = cs.drop 4 ++ t := List.drop_append_of_le_length (by omega)
  cases hhigh : hexNumber? (cs.take 4) with
  | none =>
    rw [codePoint, if_neg hshort, hhigh] at h
    cases h
  | some high =>
    by_cases hpair : ∃ behind, cs.drop 4 = '\\' :: 'u' :: behind
    · obtain ⟨behind, hbehind⟩ := hpair
      rw [codePoint_of_pair hshort hhigh hbehind] at h
      rw [codePoint_of_pair hlong (htake ▸ hhigh) (by rw [hdrop, hbehind]; rfl)]
      refine pairWith_append h ?_ t
      -- Else the second half is broken off, and the text has no end.
      by_contra hbroken
      have hshort' : behind.length < 5 := by omega
      rw [pairWith_of_length_lt hshort'] at h
      cases h
      obtain ⟨n, hn⟩ := readText_of_length_lt hshort' start
      rw [hbehind, hn] at hrest
      obtain ⟨p, hp⟩ := hrest
      cases hp
    · rw [not_exists] at hpair
      rw [codePoint_of_single hshort hhigh hpair] at h
      cases h
      obtain ⟨p, hp⟩ := hrest
      refine codePoint_of_single hlong (htake ▸ hhigh) fun behind hbehind => ?_
      exact append_ne_of_readText hp hpair t behind (hdrop ▸ hbehind)

/-- An escape is the same with more behind the text that it stands in, since that text has an
end. -/
theorem escaped_append (h : escaped start cs = .ok (c, width))
    (hrest : ∃ p, readText start (cs.drop width) = .ok p) (t : List Char) :
    escaped start' (cs ++ t) = .ok (c, width) := by
  revert h
  fun_cases escaped start cs
  case case1 => rintro ⟨⟩
  case case2 rest =>
    intro h
    cases hcode : codePoint rest with
    | error stop =>
      rw [hcode] at h
      cases h
    | ok p =>
      rw [hcode] at h
      cases h
      rw [List.cons_append, escaped, codePoint_append hcode hrest]
      rfl
  case case11 => rintro ⟨⟩
  all_goals exact fun h => h

/-- A text is the same with more behind it. -/
theorem readText_append (h : readText start cs = .ok (text, rest)) (t : List Char) :
    readText start' (cs ++ t) = .ok (text, rest ++ t) := by
  revert h
  fun_induction readText start cs generalizing text rest with
  | case1 => rintro ⟨⟩
  | case2 rest =>
    rintro ⟨⟩
    rw [List.cons_append, readText]
  | case3 => rintro ⟨⟩
  | case4 => rintro ⟨⟩
  | case5 body c width hescaped text' rest' hbody ih =>
    rintro ⟨⟩
    -- The escape does not reach beyond the text, as something is read behind it.
    have hwidth : width ≤ body.length := by
      by_contra hlt
      exact ne_nil_of_readText hbody (List.drop_eq_nil_of_le (by omega))
    rw [List.cons_append, readText, escaped_append hescaped ⟨_, hbody⟩]
    simp only [List.drop_append_of_le_length hwidth, ih hbody]
  | case6 => rintro ⟨⟩
  | case7 => rintro ⟨⟩
  | case8 c body hquote hbackslash hcontrol text' rest' hbody ih =>
    rintro ⟨⟩
    rw [List.cons_append, readText.eq_4 _ _ _ hquote hbackslash, if_neg hcontrol]
    simp only [ih hbody]

end Texts

/-! ## Numbers -/

/-- No number goes on with what stands here. -/
def EndsNumber (cs : List Char) : Prop := ∃ c ∈ cs.head?, c ≠ '.' ∧ c ≠ 'e' ∧ c ≠ 'E'

section Numbers

variable {cs rest : List Char}

/-- At the end of everything a number might still go on. -/
theorem EndsNumber.ne_nil (h : EndsNumber cs) : cs ≠ [] := by
  rintro rfl
  obtain ⟨c, hc, -⟩ := h
  cases hc

/-- Digits that end before the text does are the same with more behind them. -/
theorem takeAsciiDigits_append (h : cs.dropWhile Char.isDigit ≠ []) (t : List Char) :
    takeAsciiDigits (cs ++ t) = ((takeAsciiDigits cs).1, (takeAsciiDigits cs).2 ++ t) := by
  have hdigits : (cs.takeWhile Char.isDigit).length ≠ cs.length := by
    intro hall
    have hlength := congrArg List.length (cs.takeWhile_append_dropWhile (p := Char.isDigit))
    rw [List.length_append, hall] at hlength
    exact h (List.length_eq_zero_iff.1 (by omega))
  rw [takeAsciiDigits, List.takeWhile_append, List.dropWhile_append, if_neg hdigits,
    if_neg (by simpa using h), takeAsciiDigits]

theorem takeMinus_append (h : cs ≠ []) (t : List Char) :
    takeMinus (cs ++ t) = ((takeMinus cs).1, (takeMinus cs).2 ++ t) := by
  obtain ⟨c, cs, rfl⟩ := List.exists_cons_of_ne_nil h
  by_cases hc : c = '-'
  · subst hc
    rfl
  · rw [List.cons_append, takeMinus.eq_2 _ (by simp [hc]), takeMinus.eq_2 _ (by simp [hc])]
    rfl

theorem takeSign_append (h : cs ≠ []) (t : List Char) :
    takeSign (cs ++ t) = ((takeSign cs).1, (takeSign cs).2 ++ t) := by
  obtain ⟨c, cs, rfl⟩ := List.exists_cons_of_ne_nil h
  by_cases hminus : c = '-'
  · subst hminus
    rfl
  by_cases hplus : c = '+'
  · subst hplus
    rfl
  rw [List.cons_append, takeSign.eq_3 _ (by simp [hminus]) (by simp [hplus]),
    takeSign.eq_3 _ (by simp [hminus]) (by simp [hplus])]
  rfl

/-- A whole part that ends before the text does is the same with more behind it. -/
theorem takeWhole_append {whole : List Char} (h : takeWhole cs = some (whole, rest))
    (hrest : rest ≠ []) (t : List Char) : takeWhole (cs ++ t) = some (whole, rest ++ t) := by
  revert h
  fun_cases takeWhole cs with
  | case1 =>
    rintro ⟨⟩
    rfl
  | case2 c tail hzero hdigit =>
    rintro ⟨⟩
    rw [List.cons_append, takeWhole.eq_2 _ _ hzero, if_pos hdigit, ← List.cons_append,
      takeAsciiDigits_append hrest]
    rfl
  | case3 => rintro ⟨⟩
  | case4 => rintro ⟨⟩

/-- A fraction, or its absence, is the same with more behind it, unless the text ends there or in a
point that digits could follow. -/
theorem takeFraction_append (hne : (takeFraction cs).elim cs (·.2) ≠ [])
    (hpoint : ((takeFraction cs).elim cs (·.2)).head? ≠ some '.') (t : List Char) :
    takeFraction (cs ++ t) = (takeFraction cs).map fun p => (p.1, p.2 ++ t) := by
  cases hfraction : takeFraction cs with
  | none =>
    rw [hfraction] at hne hpoint
    -- What is no fraction begins with something else than a point, and goes on beginning with it.
    obtain ⟨c, cs, rfl⟩ := List.exists_cons_of_ne_nil hne
    refine takeFraction.eq_2 _ fun d tail heq => hpoint ?_
    exact congrArg some (List.cons.inj heq).1
  | some p =>
    rw [hfraction] at hne
    revert hfraction
    fun_cases takeFraction cs with
    | case1 c tail hdigit =>
      rintro ⟨⟩
      rw [List.cons_append, List.cons_append, takeFraction, if_pos hdigit, ← List.cons_append,
        takeAsciiDigits_append hne]
      rfl
    | case2 => rintro ⟨⟩
    | case3 => rintro ⟨⟩

/-- An exponent, or its absence, is the same with more behind it where no number can go on. -/
theorem takeExponent_append (h : EndsNumber ((takeExponent cs).elim cs (·.2))) (t : List Char) :
    takeExponent (cs ++ t) = (takeExponent cs).map fun p => (p.1, p.2 ++ t) := by
  cases hexponent : takeExponent cs with
  | none =>
    rw [hexponent] at h
    -- What is no exponent has to begin with something else than its mark, as no number goes on
    -- there.
    obtain ⟨c, hc, -, hlower, hupper⟩ := h
    obtain ⟨cs, rfl⟩ := List.head?_eq_some_iff.1 hc
    rw [List.cons_append, takeExponent, if_neg (by simp [hlower, hupper])]
    rfl
  | some p =>
    rw [hexponent] at h
    have hrest := h.ne_nil
    revert hexponent
    fun_cases takeExponent cs with
    | case1 => rintro ⟨⟩
    | case2 => rintro ⟨⟩
    | case3 c tail hmark negative body hsign ds behind hne hdigits =>
      rintro ⟨⟩
      -- The digits end before the text does, which `EndsNumber` says of what is behind them.
      have hbehind : body.dropWhile Char.isDigit = behind := congrArg Prod.snd hdigits
      have hbody : (takeSign tail).2 = body := congrArg Prod.snd hsign
      have htail : tail ≠ [] := by
        rintro rfl
        rw [← hbody] at hbehind
        exact hrest hbehind.symm
      rw [List.cons_append, takeExponent, if_pos hmark, takeSign_append htail, hsign]
      simp only [takeAsciiDigits_append (hbehind ▸ hrest), hdigits]
      rfl
    | case4 => rintro ⟨⟩

/-- An exponent starts with its mark, so the digits behind a point end in front of it. -/
theorem head?_ne_point_of_endsNumber (h : EndsNumber ((takeExponent cs).elim cs (·.2))) :
    cs ≠ [] ∧ cs.head? ≠ some '.' := by
  cases hexponent : takeExponent cs with
  | none =>
    rw [hexponent] at h
    refine ⟨h.ne_nil, fun hhead => ?_⟩
    obtain ⟨c, hc, hpoint, -⟩ := h
    exact hpoint (Option.some.inj (hc.symm.trans hhead))
  | some p =>
    cases cs with
    | nil => cases hexponent
    | cons c tail =>
      refine ⟨nofun, fun hhead => ?_⟩
      cases hhead
      cases hexponent

/-- What belongs to a number behind its whole part is the same with more behind it where no number
can go on. -/
theorem numberFrom_append {negative : Bool} {whole : List Char}
    (h : EndsNumber (numberFrom negative whole cs).2) (t : List Char) :
    numberFrom negative whole (cs ++ t) =
      ((numberFrom negative whole cs).1, (numberFrom negative whole cs).2 ++ t) := by
  rw [snd_numberFrom] at h
  obtain ⟨hne, hpoint⟩ := head?_ne_point_of_endsNumber h
  have hfraction := takeFraction_append hne hpoint t
  have hrest : (takeFraction (cs ++ t)).elim (cs ++ t) (·.2) =
      (takeFraction cs).elim cs (·.2) ++ t := by
    rw [hfraction]
    cases takeFraction cs <;> rfl
  simp only [numberFrom, hrest, takeExponent_append h]
  rw [hfraction]
  cases takeFraction cs <;> cases takeExponent _ <;> rfl

/-- A number is the same with more behind it, if it ends in front of what follows it. -/
theorem readNumber_append {v : Value} (h : readNumber cs = some (v, rest)) (hrest : EndsNumber rest)
    (t : List Char) : readNumber (cs ++ t) = some (v, rest ++ t) := by
  rw [readNumber, Option.map_eq_some_iff] at h
  obtain ⟨⟨whole, behind⟩, hwhole, hnumber⟩ := h
  change numberFrom (takeMinus cs).1 whole behind = (v, rest) at hnumber
  have hne : cs ≠ [] := by
    rintro rfl
    cases hwhole
  have hends : EndsNumber (numberFrom (takeMinus cs).1 whole behind).2 := by
    rwa [hnumber]
  -- The whole part does not end the text either, since the number has an end behind it.
  have hbehind : behind ≠ [] := by
    rintro rfl
    exact hends.ne_nil rfl
  have happend := numberFrom_append hends t
  rw [hnumber] at happend
  rw [readNumber, takeMinus_append hne]
  simp only [takeWhole_append hwhole hbehind, Option.map_some, happend]

end Numbers

/-! ## Atoms -/

section Atoms

variable {cs rest : List Char} {v : Value}

/-- A text that begins with a name begins with its first character. -/
theorem head?_of_name {p : List Char × Value} (hp : p ∈ namedValues) (h : p.1 <+: cs) :
    cs.head? = p.1.head? := by
  have hne : ∀ p ∈ namedValues, p.1 ≠ [] := by decide
  obtain ⟨tail, rfl⟩ := h
  exact List.head?_append_of_ne_nil _ (hne p hp)

/-- At most one name begins a text. -/
theorem find?_namedValues_eq_some_iff {p : List Char × Value} :
    namedValues.find? (·.1.isPrefixOf cs) = some p ↔ p ∈ namedValues ∧ p.1 <+: cs := by
  refine ⟨fun h => ⟨List.mem_of_find?_eq_some h, by simpa using List.find?_some h⟩, ?_⟩
  rintro ⟨hp, hbegins⟩
  have hsome : (namedValues.find? (·.1.isPrefixOf cs)).isSome = true :=
    List.find?_isSome.2 ⟨p, hp, by simpa using hbegins⟩
  obtain ⟨q, hfind⟩ := Option.isSome_iff_exists.1 hsome
  have hq := List.mem_of_find?_eq_some hfind
  have hbegins' : q.1 <+: cs := by simpa using List.find?_some hfind
  -- The names differ in their first characters.
  have hheads : (namedValues.map (·.1.head?)).Nodup := of_decide_eq_true (by cbv)
  have hhead : p.1.head? = q.1.head? :=
    (head?_of_name hp hbegins).symm.trans (head?_of_name hq hbegins')
  rwa [List.inj_on_of_nodup_map hheads hp hq hhead]

/-- No name is the start of a number. -/
theorem readNumber_eq_none_of_name {p : List Char × Value} (hp : p ∈ namedValues)
    (h : p.1 <+: cs) : readNumber cs = none := by
  obtain ⟨tail, rfl⟩ := h
  simp only [namedValues, List.mem_cons, List.not_mem_nil, or_false] at hp
  rcases hp with rfl | rfl | rfl | rfl | rfl | rfl <;> rfl

/-- What is read as a number does not begin with a name, though the name of the least infinity has a
minus too. -/
theorem find?_namedValues_of_readNumber {p : Value × List Char} (h : readNumber cs = some p) :
    namedValues.find? (·.1.isPrefixOf cs) = none := by
  rw [List.find?_eq_none]
  intro q hq hbegins
  rw [readNumber_eq_none_of_name hq (List.isPrefixOf_iff_prefix.1 hbegins)] at h
  cases h

/-- What has no parts is the same with more behind it. -/
theorem readAtom_append (h : readAtom cs = .ok (v, rest)) (hrest : EndsNumber rest)
    (t : List Char) : readAtom (cs ++ t) = .ok (v, rest ++ t) := by
  -- A text, a name or a number, in the order in which they are tried.
  by_cases hquote : ∃ body, cs = '"' :: body
  · obtain ⟨body, rfl⟩ := hquote
    rw [readAtom] at h
    cases hbody : readText ('"' :: body).length body with
    | error stop =>
      rw [hbody] at h
      cases h
    | ok p =>
      rw [hbody] at h
      cases h
      rw [List.cons_append, readAtom, readText_append hbody]
      rfl
  rw [not_exists] at hquote
  have hne : cs ≠ [] := by
    rintro rfl
    cases h
  rw [readAtom.eq_2 _ hquote] at h
  rw [readAtom.eq_2 _ (append_ne_cons hne hquote t)]
  cases hname : namedValues.find? (·.1.isPrefixOf cs) with
  | some p =>
    rw [hname] at h
    cases h
    obtain ⟨hp, hbegins⟩ := find?_namedValues_eq_some_iff.1 hname
    rw [find?_namedValues_eq_some_iff.2 ⟨hp, hbegins.trans (List.prefix_append _ t)⟩]
    simp only [List.drop_append_of_le_length hbegins.length_le]
  | none =>
    rw [hname] at h
    cases hnumber : readNumber cs with
    | none =>
      rw [hnumber] at h
      cases h
    | some p =>
      rw [hnumber] at h
      cases h
      have happend := readNumber_append hnumber hrest t
      -- With more behind it a number does still not begin with a name.
      rw [find?_namedValues_of_readNumber happend, happend]

end Atoms

/-! ## Lists and tables -/

/-- What one reader reads from a text, the other one reads from the text with `t` behind it. -/
structure ReadsBefore {α : Type} (t : List Char)
    (f f' : List Char → Except Stop (α × List Char)) : Prop where
  append : ∀ {cs rest : List Char} {a : α}, f cs = .ok (a, rest) →
    f' (cs ++ t) = .ok (a, rest ++ t)
  /-- Nothing is read from no text. -/
  ne_nil : ∀ {cs : List Char} {p : α × List Char}, f cs = .ok p → cs ≠ []

/-- Spaces that end before the text does are the same with more behind it. -/
theorem skipSpaces_append_of_ne_nil {cs : List Char} (h : skipSpaces cs ≠ []) (t : List Char) :
    skipSpaces (cs ++ t) = skipSpaces cs ++ t := by
  rw [skipSpaces, List.dropWhile_append, if_neg (by simpa [skipSpaces] using h), skipSpaces]

/-- No number goes on in front of a character that follows it behind spaces. -/
theorem endsNumber_of_skipSpaces {cs : List Char} {c : Char} (h : (skipSpaces cs).head? = some c)
    (hc : c ≠ '.' ∧ c ≠ 'e' ∧ c ≠ 'E') : EndsNumber cs := by
  cases cs with
  | nil => cases h
  | cons d cs =>
    refine ⟨d, rfl, ?_⟩
    by_cases hd : isSpace d = true
    · simp only [isSpace, Bool.or_eq_true, decide_eq_true_eq] at hd
      rcases hd with ((rfl | rfl) | rfl) | rfl <;> decide
    · rw [skipSpaces, List.dropWhile_cons_of_neg hd] at h
      cases h
      exact hc

section Brackets

variable {α : Type} {t : List Char} {closing : Char}
  {more more' : List Char → Except Stop (List α × List Char)}

/-- What stands between brackets is read alike, if its elements are. -/
theorem bracketedFrom_append (hmore : ReadsBefore t more more') {value : List α → Value}
    {cs rest : List Char} {v : Value} (h : bracketedFrom closing more value cs = .ok (v, rest)) :
    bracketedFrom closing more' value (cs ++ t) = .ok (v, rest ++ t) := by
  rw [bracketedFrom] at h ⊢
  -- At the end of a text there is neither a bracket nor an element, so what is read is not at the
  -- end.
  have hne : skipSpaces cs ≠ [] := by
    intro hnil
    rw [hnil] at h
    obtain ⟨p, hp, -⟩ := map_eq_ok_iff.1 h
    exact hmore.ne_nil hp rfl
  rw [skipSpaces_append_of_ne_nil hne]
  generalize skipSpaces cs = body at h hne
  simp only [List.head?_append_of_ne_nil _ hne, List.tail_append_of_ne_nil hne] at h ⊢
  split_ifs at h ⊢
  · cases h
    rfl
  · obtain ⟨p, hp, heq⟩ := map_eq_ok_iff.1 h
    cases heq
    rw [hmore.append hp]
    rfl

/-- Elements up to a closing bracket are read alike: behind each value stands a comma or the
bracket, and with neither of them a number goes on. -/
theorem elementsFrom_append (hclosing : closing ≠ '.' ∧ closing ≠ 'e' ∧ closing ≠ 'E')
    (hmore : ReadsBefore t more more') {element : Value → α}
    {x x' : Except Stop (Value × List Char)} {elements : List α} {rest : List Char}
    (hvalue : ∀ {v behind}, x = .ok (v, behind) → EndsNumber behind → x' = .ok (v, behind ++ t))
    (h : elementsFrom closing more element x = .ok (elements, rest)) :
    elementsFrom closing more' element x' = .ok (elements, rest ++ t) := by
  cases x with
  | error stop => cases h
  | ok p =>
    obtain ⟨v, behind⟩ := p
    rw [elementsFrom] at h
    -- The closing bracket and the comma both end a number, so the value in front of them is read
    -- alike.
    by_cases hclose : (skipSpaces behind).head? = some closing
    · rw [hvalue rfl (endsNumber_of_skipSpaces hclose hclosing), elementsFrom]
      obtain ⟨body, hbody⟩ := List.head?_eq_some_iff.1 hclose
      have hskip : skipSpaces (behind ++ t) = closing :: (body ++ t) := by
        rw [skipSpaces_append_of_ne_nil (by simp [hbody]), hbody, List.cons_append]
      simp only [hbody, hskip, List.head?_cons, List.tail_cons, if_true] at h ⊢
      cases h
      rfl
    simp only [if_neg hclose] at h
    by_cases hcomma : (skipSpaces behind).head? = some ','
    · rw [hvalue rfl (endsNumber_of_skipSpaces hcomma (by decide)), elementsFrom]
      obtain ⟨body, hbody⟩ := List.head?_eq_some_iff.1 hcomma
      have hskip : skipSpaces (behind ++ t) = ',' :: (body ++ t) := by
        rw [skipSpaces_append_of_ne_nil (by simp [hbody]), hbody, List.cons_append]
      rw [hbody] at h hclose
      simp only [hskip, List.head?_cons, List.tail_cons, if_true] at h hclose ⊢
      obtain ⟨p, hp, heq⟩ := map_eq_ok_iff.1 h
      cases heq
      rw [if_neg hclose, skipSpaces_append_of_ne_nil (hmore.ne_nil hp), hmore.append hp]
      rfl
    · simp only [if_neg hcomma] at h
      cases h

end Brackets

/-! ## Values -/

/-- With so much fuel the readers read the same values with `t` behind the text. -/
structure CoversBefore (t : List Char) (fuel fuel' : Nat) : Prop where
  value : ∀ {cs rest : List Char} {v : Value}, readValue fuel cs = .ok (v, rest) →
    EndsNumber rest → readValue fuel' (cs ++ t) = .ok (v, rest ++ t)
  items : ReadsBefore t (readItems fuel) (readItems fuel')
  entries : ReadsBefore t (readEntries fuel) (readEntries fuel')

namespace CoversBefore

variable {t cs rest : List Char} {fuel fuel' : Nat}

/-- A value between brackets ends with its bracket. -/
theorem braced_succ (h : CoversBefore t fuel fuel') {v : Value}
    (hread : readValue (fuel + 1) ('\x7b' :: cs) = .ok (v, rest)) :
    readValue (fuel' + 1) ('\x7b' :: cs ++ t) = .ok (v, rest ++ t) := by
  rw [readValue_table_succ] at hread
  rw [List.cons_append, readValue_table_succ]
  exact bracketedFrom_append h.entries hread

/-- A value is read alike with one step more. -/
theorem value_succ (h : CoversBefore t fuel fuel') {v : Value}
    (hread : readValue (fuel + 1) cs = .ok (v, rest)) (hrest : EndsNumber rest) :
    readValue (fuel' + 1) (cs ++ t) = .ok (v, rest ++ t) := by
  -- The brackets tell lists and tables apart from what has no parts.
  by_cases hlist : ∃ body, cs = '[' :: body
  · obtain ⟨body, rfl⟩ := hlist
    rw [readValue_list_succ] at hread
    rw [List.cons_append, readValue_list_succ]
    exact bracketedFrom_append h.items hread
  by_cases htable : ∃ body, cs = '\x7b' :: body
  · obtain ⟨body, rfl⟩ := htable
    exact h.braced_succ hread
  rw [not_exists] at hlist htable
  have hne : cs ≠ [] := by
    rintro rfl
    cases hread
  rw [readValue.eq_4 _ _ hlist htable] at hread
  rw [readValue.eq_4 _ _ (append_ne_cons hne hlist t) (append_ne_cons hne htable t)]
  exact readAtom_append hread hrest t

/-- The items of a list are read alike with one step more. -/
theorem items_succ (h : CoversBefore t fuel fuel') :
    ReadsBefore t (readItems (fuel + 1)) (readItems (fuel' + 1)) where
  append hread := by
    rw [readItems_succ] at hread ⊢
    exact elementsFrom_append (by decide) h.items h.value hread
  ne_nil hread := by
    rintro rfl
    rw [readItems_succ] at hread
    cases fuel <;> cases hread

/-- The entries of a table are read alike with one step more. -/
theorem entries_succ (h : CoversBefore t fuel fuel') :
    ReadsBefore t (readEntries (fuel + 1)) (readEntries (fuel' + 1)) where
  append {cs rest entries} hread := by
    by_cases hquote : ∃ body, cs = '"' :: body
    swap
    · rw [not_exists] at hquote
      rw [readEntries.eq_3 _ _ hquote] at hread
      cases hread
    obtain ⟨body, rfl⟩ := hquote
    rw [readEntries_succ] at hread
    rw [List.cons_append, readEntries_succ]
    cases hkey : readText ('"' :: body).length body with
    | error stop =>
      rw [hkey] at hread
      cases hread
    | ok p =>
      obtain ⟨key, behind⟩ := p
      rw [hkey] at hread
      rw [readText_append hkey]
      by_cases hcolon : ∃ tail, skipSpaces behind = ':' :: tail
      · obtain ⟨tail, htail⟩ := hcolon
        have hskip : skipSpaces (behind ++ t) = ':' :: (tail ++ t) := by
          rw [skipSpaces_append_of_ne_nil (by simp [htail]), htail, List.cons_append]
        simp only [htail] at hread
        simp only [hskip]
        refine elementsFrom_append (by decide) h.entries (fun hvalue hrest => ?_) hread
        -- A value is read behind the colon, so the text does not end there.
        have hne : skipSpaces tail ≠ [] := by
          intro hnil
          rw [hnil] at hvalue
          cases fuel <;> cases hvalue
        rw [skipSpaces_append_of_ne_nil hne]
        exact h.value hvalue hrest
      · rw [not_exists] at hcolon
        simp only at hread
        cases hread
  ne_nil hread := by
    rintro rfl
    cases hread

end CoversBefore

/-- More fuel is no harm. -/
theorem coversBefore (t : List Char) {fuel fuel' : Nat} (h : fuel ≤ fuel') :
    CoversBefore t fuel fuel' := by
  induction fuel generalizing fuel' with
  | zero => exact ⟨nofun, ⟨nofun, nofun⟩, ⟨nofun, nofun⟩⟩
  | succ fuel ih =>
    obtain ⟨fuel', rfl⟩ : ∃ n, fuel' = n + 1 := ⟨fuel' - 1, by omega⟩
    have hfuel : CoversBefore t fuel fuel' := ih (by omega)
    exact ⟨hfuel.value_succ, hfuel.items_succ, hfuel.entries_succ⟩

/-- What stands behind the closing brace of a table does not matter. -/
theorem readValue_braced_append {fuel fuel' : Nat} {tail rest : List Char} {v : Value}
    (hread : readValue fuel ('\x7b' :: tail) = .ok (v, rest)) (h : fuel ≤ fuel') (t : List Char) :
    readValue fuel' ('\x7b' :: tail ++ t) = .ok (v, rest ++ t) := by
  cases fuel with
  | zero => cases hread
  | succ fuel =>
    obtain ⟨fuel', rfl⟩ : ∃ n, fuel' = n + 1 := ⟨fuel' - 1, by omega⟩
    exact (coversBefore t (by omega)).braced_succ hread

/-! ## Whole texts -/

section Whole

variable {front tail back : List Char} {v : Value}

/-- A text of blanks between tokens. -/
def IsSpaces (cs : List Char) : Prop := ∀ c ∈ cs, isSpace c = true

instance (cs : List Char) : Decidable (IsSpaces cs) :=
  decidable_of_iff (cs.all isSpace = true) List.all_eq_true

theorem skipSpaces_eq_nil_iff {cs : List Char} : skipSpaces cs = [] ↔ IsSpaces cs :=
  List.dropWhile_eq_nil_iff

/-- A document is a value with nothing but spaces around it. -/
theorem exists_readValue_of_read? {cs : List Char} (h : read? cs = some v) :
    ∃ rest, readValue (2 * cs.length + 2) (skipSpaces cs) = .ok (v, rest) ∧ IsSpaces rest := by
  rw [read?, readWhole] at h
  split_ifs at h
  · cases h
  cases hvalue : readValue (2 * cs.length + 2) (skipSpaces cs) with
  | error stop =>
    rw [hvalue] at h
    cases h
  | ok p =>
    obtain ⟨value, rest⟩ := p
    rw [hvalue] at h
    simp only at h
    split at h
    · cases h
      exact ⟨rest, rfl, skipSpaces_eq_nil_iff.1 ‹_›⟩
    · cases h

/-- A document between braces is read behind spaces, and what stands behind it must be spaces. -/
theorem readWhole_braced (h : read? ('\x7b' :: tail) = some v) (hfront : IsSpaces front) :
    readWhole (front ++ '\x7b' :: tail ++ back) =
      if IsSpaces back then .ok v else .error ⟨.extraData, (skipSpaces back).length⟩ := by
  -- The mark of a byte order is no space, and no brace either.
  have hmark : (front ++ '\x7b' :: tail ++ back).head? ≠ some (Char.ofNat 0xFEFF) := by
    cases front with
    | nil => simp
    | cons c front =>
      intro hhead
      cases hhead
      exact absurd (hfront _ (.head _)) (by decide)
  have hskip : skipSpaces (front ++ '\x7b' :: tail ++ back) = '\x7b' :: tail ++ back := by
    rw [List.append_assoc, skipSpaces_append hfront]
    rfl
  -- The document is read with the fuel of its own text, which the longer text has too.
  obtain ⟨rest, hvalue, hrest⟩ := exists_readValue_of_read? h
  have hfuel : 2 * ('\x7b' :: tail).length + 2 ≤
      2 * (front ++ '\x7b' :: tail ++ back).length + 2 := by
    simp only [List.length_append]
    omega
  have hbehind : skipSpaces (rest ++ back) = skipSpaces back :=
    skipSpaces_append hrest back
  rw [readWhole, if_neg hmark, hskip, readValue_braced_append hvalue hfuel back]
  simp only [hbehind]
  split_ifs with hback
  · rw [skipSpaces_eq_nil_iff.2 hback]
  · obtain ⟨c, behind, hne⟩ := List.exists_cons_of_ne_nil (mt skipSpaces_eq_nil_iff.1 hback)
    rw [hne]

/-- No value starts with a blank. -/
theorem readValue_of_isBlank {fuel : Nat} {c : Char} (hc : isBlank c = true) (cs : List Char) :
    readValue fuel (c :: cs) = .error ⟨.value, (c :: cs).length⟩ := by
  have hne : ∀ d : Char, isBlank d = false → ∀ body, c :: cs ≠ d :: body := by
    intro d hd body heq
    rw [(List.cons.inj heq).1, hd] at hc
    cases hc
  -- No name begins with a blank, and no number does.
  have hname : namedValues.find? (·.1.isPrefixOf (c :: cs)) = none := by
    have hstart : namedValues.all (fun p => !p.1.head?.any isBlank) = true := by cbv
    refine List.find?_eq_none.2 fun p hp hbegins => ?_
    have hhead := head?_of_name hp (List.isPrefixOf_iff_prefix.1 hbegins)
    have hp' := List.all_eq_true.1 hstart p hp
    rw [← hhead, List.head?_cons, Option.any_some, hc] at hp'
    cases hp'
  have hnumber : readNumber (c :: cs) = none := by
    have hdigit : ¬ c.isDigit = true := by
      intro hdigit
      obtain ⟨hlow, hhigh⟩ : 0x30 ≤ c.toNat ∧ c.toNat ≤ 0x39 := Char.isDigit_iff_toNat.1 hdigit
      simp only [isBlank, Bool.or_eq_true, Bool.and_eq_true, decide_eq_true_eq, beq_iff_eq] at hc
      omega
    rw [readNumber, takeMinus.eq_2 _ (hne '-' rfl)]
    simp only
    rw [takeWhole.eq_2 _ _ fun hzero => hne '0' rfl cs (by rw [hzero]), if_neg hdigit]
    rfl
  cases fuel with
  | zero => rw [readValue]
  | succ fuel =>
    rw [readValue.eq_4 _ _ (hne _ rfl) (hne _ rfl), readAtom.eq_2 _ (hne _ rfl), hname, hnumber]

/-- A blank that is no space is taken for the start of a value. -/
theorem readWhole_of_isBlank {cs rest : List Char} {c : Char} (hskip : skipSpaces cs = c :: rest)
    (hc : isBlank c = true) (hmark : cs.head? ≠ some (Char.ofNat 0xFEFF)) :
    readWhole cs = .error ⟨.value, (c :: rest).length⟩ := by
  rw [readWhole, if_neg hmark, hskip, readValue_of_isBlank hc]

/-! Of the blanks around a document between braces the reader skips those that are spaces between
tokens. In front of it any other one is taken for the start of a value, behind it any other one is
taken for more data. -/

/-- Spaces around a document are skipped. -/
theorem read_of_isSpaces (h : read? ('\x7b' :: tail) = some v) (hfront : IsSpaces front)
    (hback : IsSpaces back) : read (front ++ '\x7b' :: tail ++ back) = .ok v := by
  rw [read, readWhole_braced h hfront, if_pos hback]
  rfl

/-- A blank behind a document that is no space is more data. -/
theorem flaw_of_not_isSpaces_back (h : read? ('\x7b' :: tail) = some v) (hfront : IsSpaces front)
    (hback : ¬ IsSpaces back) : ∃ failure,
      read (front ++ '\x7b' :: tail ++ back) = .error failure ∧ failure.flaw = .extraData := by
  rw [read, readWhole_braced h hfront, if_neg hback]
  exact ⟨_, rfl, rfl⟩

/-- A blank in front of a document that is no space is no value. -/
theorem flaw_of_not_isSpaces_front (hblank : ∀ c ∈ front, isBlank c = true)
    (hfront : ¬ IsSpaces front) (cs : List Char) :
    ∃ failure, read (front ++ cs) = .error failure ∧ failure.flaw = .value := by
  obtain ⟨c, rest, hrest⟩ := List.exists_cons_of_ne_nil (mt skipSpaces_eq_nil_iff.1 hfront)
  have hskip : skipSpaces (front ++ cs) = c :: (rest ++ cs) := by
    rw [skipSpaces_append_of_ne_nil (by simp [hrest]), hrest, List.cons_append]
  have hc : c ∈ front := (List.dropWhile_sublist _).subset (hrest ▸ List.mem_cons_self)
  have hmark : (front ++ cs).head? ≠ some (Char.ofNat 0xFEFF) := by
    obtain ⟨d, front, rfl⟩ := List.exists_cons_of_ne_nil (List.ne_nil_of_mem hc)
    intro hhead
    cases hhead
    exact absurd (hblank _ (.head _)) (by decide)
  rw [read, readWhole_of_isBlank hskip (hblank c hc) hmark]
  exact ⟨_, rfl, rfl⟩

end Whole

end PackageLint.Json
