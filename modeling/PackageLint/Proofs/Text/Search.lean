import Mathlib
import PackageLint.Proofs.Text.Trim
import PackageLint.Text.Search

/-!
# How often a token stands in a text

Occurrences are counted from the left, and the next one is looked for behind the last one. A token
whose last character stands nowhere else in it, such as the name of a call with the parenthesis that
opens it, never overlaps with itself, so each of these characters ends an occurrence or none.

## Main results

* `countOf_pos_iff`: what is counted is a part of the text;
* `countOf_append_cons`: the first of these characters ends an occurrence or none;
* `countOf_trim`: blanks around a text do not matter for tokens without blanks.
-/

namespace PackageLint.Text

/-- Behind a find the search goes on with what is left. -/
theorem countFrom_eq_countOf_drop {needle : List Char} (h : needle ≠ []) (skip : Nat)
    (text : List Char) : countFrom needle skip text = countOf needle (text.drop skip) := by
  induction text generalizing skip with
  | nil => cases skip <;> simp [countOf, countFrom, h]
  | cons c rest ih =>
    cases skip with
    | zero => rfl
    | succ skip => rw [countFrom, ih, List.drop_succ_cons]

/-- There is an occurrence exactly if the text holds the token. -/
theorem countOf_pos_iff {needle text : List Char} : 0 < countOf needle text ↔ needle <:+: text := by
  induction text with
  | nil =>
    rw [List.infix_nil, countOf, countFrom]
    split_ifs with h <;> simp [List.isEmpty_iff.symm, h]
  | cons c rest ih =>
    rw [List.infix_cons_iff, ← ih, ← List.isPrefixOf_iff_prefix, countOf, countFrom]
    split_ifs with h
    · exact iff_of_true (Nat.add_pos_left Nat.one_pos _) (.inl h)
    · rw [countOf, or_iff_right h]

section Token

variable {body : List Char} {last : Char}

theorem countOf_token_nil : countOf (body ++ [last]) [] = 0 := by simp [countOf, countFrom]

/-- No occurrence starts with a character that the token does not start with. -/
theorem countOf_cons_of_not_isPrefix {c : Char} {rest : List Char}
    (h : ¬ body ++ [last] <+: c :: rest) :
    countOf (body ++ [last]) (c :: rest) = countOf (body ++ [last]) rest := by
  rw [countOf, countFrom, if_neg (by simpa using h), countOf]

/-- Each occurrence holds the last character of the token. -/
theorem countOf_eq_zero_of_notMem {text : List Char} (h : last ∉ text) :
    countOf (body ++ [last]) text = 0 := by
  induction text with
  | nil => exact countOf_token_nil
  | cons c rest ih =>
    rw [countOf_cons_of_not_isPrefix fun hbegins => h (hbegins.subset (by simp)),
      ih (List.not_mem_of_not_mem_cons h)]

/-- The token stands at the start of its own occurrences. -/
theorem countOf_token_append (rest : List Char) :
    countOf (body ++ [last]) (body ++ last :: rest) = 1 + countOf (body ++ [last]) rest := by
  have htoken : body ++ [last] ≠ [] := by simp
  have hsplit : body ++ last :: rest = (body ++ [last]) ++ rest := by simp
  obtain ⟨c, more, hc⟩ := List.exists_cons_of_ne_nil htoken
  have hlength : (body ++ [last]).length - 1 = more.length := by simp [hc]
  have hbegins : (body ++ [last]).isPrefixOf (c :: (more ++ rest)) = true := by simp [hc]
  rw [hsplit, hc, List.cons_append, ← hc, countOf, countFrom, if_pos hbegins, hlength,
    countFrom_eq_countOf_drop htoken, List.drop_left]

variable (hbody : last ∉ body)

include hbody

/-- Where the token starts, all in front of the first of its last characters is the rest of it. -/
theorem isPrefix_append_cons_iff {front : List Char} (hfront : last ∉ front) (rest : List Char) :
    body ++ [last] <+: front ++ last :: rest ↔ body = front := by
  -- What stands in front of the first `last` can be told from the text.
  have htake : ∀ {cs : List Char}, last ∉ cs → ∀ more : List Char,
      (cs ++ last :: more).takeWhile (· != last) = cs := by
    intro cs hcs more
    have hne : ∀ c ∈ cs, (c != last) = true := by
      intro c hc
      rw [bne_iff_ne]
      rintro rfl
      exact hcs hc
    rw [List.takeWhile_append_of_pos hne, List.takeWhile_cons_of_neg (by simp), List.append_nil]
  constructor
  · rintro ⟨more, hmore⟩
    have hsame := congrArg (List.takeWhile (· != last)) hmore
    rwa [List.append_assoc, List.singleton_append, htake hbody, htake hfront] at hsame
  · rintro rfl
    exact ⟨rest, by simp⟩

/-- The first of the characters with which the token ends is the end of an occurrence if the rest of
the token stands in front of it. -/
theorem countOf_append_cons {front : List Char} (hfront : last ∉ front) (rest : List Char) :
    countOf (body ++ [last]) (front ++ last :: rest) =
      (if body <:+ front then 1 else 0) + countOf (body ++ [last]) rest := by
  induction front with
  | nil =>
    by_cases h : body = []
    · subst h
      have hempty := @countOf_token_append [] last rest
      simpa using hempty
    · have hbegins := mt (isPrefix_append_cons_iff hbody hfront rest).1 h
      rw [List.nil_append, countOf_cons_of_not_isPrefix hbegins]
      simp [h]
  | cons c front ih =>
    by_cases h : body = c :: front
    · rw [← h, countOf_token_append, if_pos List.suffix_rfl]
    -- A token that begins here ends with its last character, which stands no earlier than behind
    -- `front`.
    · have hbegins : ¬ body ++ [last] <+: c :: (front ++ last :: rest) :=
        mt (isPrefix_append_cons_iff hbody hfront rest).1 h
      rw [List.cons_append, countOf_cons_of_not_isPrefix hbegins,
        ih (List.not_mem_of_not_mem_cons hfront)]
      simp [List.suffix_cons_iff, h]

/-- Characters that the token does not hold may stand behind a text. -/
theorem countOf_append_of_disjoint {front text back : List Char} (hfront : last ∉ front)
    (hback : last ∉ back) :
    countOf (body ++ [last]) (front ++ text ++ back) = countOf (body ++ [last]) (front ++ text) := by
  induction text generalizing front with
  | nil =>
    rw [List.append_nil, countOf_eq_zero_of_notMem hfront,
      countOf_eq_zero_of_notMem (by simp [hfront, hback])]
  | cons c text ih =>
    -- The count starts anew behind each `last`, and other characters are put to the front.
    by_cases hc : c = last
    · subst hc
      have htext := @ih [] (by simp)
      rw [List.nil_append] at htext
      rw [List.append_assoc, List.cons_append, countOf_append_cons hbody hfront, htext,
        countOf_append_cons hbody hfront]
    · have hmore : last ∉ front ++ [c] := by simp [hfront, Ne.symm hc]
      simpa using ih hmore

/-- Blanks around a text do not matter for a token without blanks. -/
theorem countOf_trim (hblank : ∀ c ∈ body ++ [last], isBlank c = false) (text : List Char) :
    countOf (body ++ [last]) (trim text) = countOf (body ++ [last]) text := by
  obtain ⟨front, back, htext, hfront, hback⟩ := exists_eq_append_trim text
  have hstart : ∀ {blanks : List Char}, (∀ b ∈ blanks, isBlank b = true) → ∀ rest : List Char,
      countOf (body ++ [last]) (blanks ++ rest) = countOf (body ++ [last]) rest := by
    intro blanks hblanks rest
    induction blanks with
    | nil => rfl
    | cons b blanks ih =>
      rw [List.forall_mem_cons] at hblanks
      rw [List.cons_append, countOf_cons_of_not_isPrefix, ih hblanks.2]
      -- A token does not start with a blank.
      intro hbegins
      obtain ⟨c, more, hc⟩ := List.exists_cons_of_ne_nil (by simp : body ++ [last] ≠ [])
      rw [hc, List.cons_prefix_cons] at hbegins
      have hnone := hblank c (by simp [hc])
      simp [hbegins.1, hblanks.1] at hnone
  have hend : last ∉ back := fun hlast => by
    have hnone := hblank last (by simp)
    simp [hback last hlast] at hnone
  conv_rhs => rw [htext, List.append_assoc, hstart hfront]
  have happend : countOf (body ++ [last]) ([] ++ trim text ++ back) =
      countOf (body ++ [last]) ([] ++ trim text) :=
    countOf_append_of_disjoint hbody List.not_mem_nil hend
  simpa using happend.symm

end Token

end PackageLint.Text
