import Mathlib
import PackageLint.Text.Blank
import PackageLint.Text.Glob

/-!
# Words and names

The words of a text are its longest runs of characters other than blanks, so a word is what stands
between two places each of which is a blank or an end of the text. A file name pattern that is
written with plain characters and one star holds for the names that begin with what stands in front
of the star and end with what stands behind it.

## Main definitions

* `IsWord`: a word of a text by what stands around it.

## Main results

* `words_cons_of_not_isBlank`: the first word of a text, and the words behind it;
* `mem_words_iff`: the words that are found are the words of the text;
* `globHolds_literal_append_iff`, `globHolds_star_cons_iff`: what the pieces of a pattern stand for.
-/

namespace PackageLint.Text

/-! ## Words -/

/-- A word of a text has no blanks, and on either side of it the text ends or goes on with a
blank. -/
def IsWord (word text : List Char) : Prop :=
  word ≠ [] ∧ (∀ c ∈ word, isBlank c = false) ∧
    ∃ before after, text = before ++ word ++ after ∧
      (∀ c ∈ before.getLast?, isBlank c = true) ∧ ∀ c ∈ after.head?, isBlank c = true

theorem not_isWord_nil (word : List Char) : ¬ IsWord word [] := by
  rintro ⟨hne, -, before, after, htext, -⟩
  simp_all

theorem words_cons (c : Char) (rest : List Char) :
    words (c :: rest) =
      if isBlank c then words rest
      else match rest, words rest with
        | [], _ => [[c]]
        | _, [] => [[c]]
        | next :: _, word :: others =>
          if isBlank next then [c] :: word :: others else (c :: word) :: others := rfl

theorem words_cons_of_isBlank {c : Char} (h : isBlank c = true) (rest : List Char) :
    words (c :: rest) = words rest := by
  rw [words_cons, if_pos h]

/-- The first word of a text goes on to the first blank. -/
theorem words_cons_of_not_isBlank {c : Char} (h : isBlank c = false) (rest : List Char) :
    words (c :: rest) =
      (c :: rest.takeWhile (!isBlank ·)) :: words (rest.dropWhile (!isBlank ·)) := by
  induction rest generalizing c with
  | nil =>
    rw [words_cons, if_neg (by simp [h])]
    rfl
  | cons next rest ih =>
    rw [words_cons, if_neg (by simp [h])]
    -- The word ends here or goes on with the word that is found behind the character.
    by_cases hnext : isBlank next = true
    · rw [words_cons_of_isBlank hnext, List.takeWhile_cons_of_neg (by simp [hnext]),
        List.dropWhile_cons_of_neg (by simp [hnext]), words_cons_of_isBlank hnext]
      cases words rest <;> simp [hnext]
    · rw [Bool.not_eq_true] at hnext
      rw [ih hnext, List.takeWhile_cons_of_pos (by simp [hnext]),
        List.dropWhile_cons_of_pos (by simp [hnext])]
      simp [hnext]

/-- A blank in front belongs to no word. -/
theorem isWord_cons_iff_of_isBlank {c : Char} (h : isBlank c = true) {word rest : List Char} :
    IsWord word (c :: rest) ↔ IsWord word rest := by
  constructor
  · rintro ⟨hne, hword, before, after, htext, hbefore, hafter⟩
    refine ⟨hne, hword, ?_⟩
    -- A word cannot begin with the blank, so the blank stands before it.
    cases before with
    | nil =>
      obtain ⟨d, word, rfl⟩ := List.exists_cons_of_ne_nil hne
      obtain ⟨rfl, -⟩ := List.cons_eq_cons.1 htext
      exact absurd (hword c List.mem_cons_self) (by simp [h])
    | cons d before =>
      obtain ⟨-, htext⟩ := List.cons_eq_cons.1 htext
      refine ⟨before, after, htext, fun b hb => hbefore b ?_, hafter⟩
      rw [List.getLast?_cons, Option.mem_def.1 hb]
      rfl
  · rintro ⟨hne, hword, before, after, rfl, hbefore, hafter⟩
    refine ⟨hne, hword, c :: before, after, rfl, fun b hb => ?_, hafter⟩
    rw [List.getLast?_cons, Option.mem_some_iff] at hb
    cases hlast : before.getLast? with
    | none => rw [← hb, hlast]; exact h
    | some d => rw [← hb, hlast]; exact hbefore d hlast

/-- Characters other than blanks in front of a blank or the end are one word. -/
theorem isWord_append_iff {front back word : List Char} (hne : front ≠ [])
    (hfront : ∀ c ∈ front, isBlank c = false) (hback : ∀ c ∈ back.head?, isBlank c = true) :
    IsWord word (front ++ back) ↔ word = front ∨ IsWord word back := by
  constructor
  · rintro ⟨hword, hplain, before, after, htext, hbefore, hafter⟩
    rw [List.append_assoc] at htext
    rcases List.append_eq_append_iff.1 htext with ⟨gap, rfl, rfl⟩ | ⟨gap, rfl, hrest⟩
    -- The word stands behind the front.
    · have hgap : gap ++ (word ++ after) = gap ++ word ++ after := (List.append_assoc _ _ _).symm
      refine .inr ⟨hword, hplain, gap, after, hgap, fun c hc => ?_, hafter⟩
      exact hbefore c (by simp [List.getLast?_append, Option.mem_def.1 hc])
    · -- Nothing is in front of the word, since it would end with a blank of the front.
      obtain rfl : before = [] := by
        by_contra hnonempty
        have hlast := List.getLast_mem hnonempty
        have hblank := hbefore _ (List.getLast?_eq_getLast_of_ne_nil hnonempty)
        simp [hfront _ (List.mem_append_left _ hlast)] at hblank
      rw [List.nil_append] at hfront ⊢
      rcases List.append_eq_append_iff.1 hrest with ⟨more, rfl, rfl⟩ | ⟨more, rfl, rfl⟩
      -- Neither of the two goes on behind the other one.
      · cases more with
        | nil => simp
        | cons c more =>
          have hblank := hafter c rfl
          simp [hfront c (by simp)] at hblank
      · cases more with
        | nil => simp
        | cons c more =>
          have hblank := hback c rfl
          simp [hplain c (by simp)] at hblank
  · rintro (rfl | ⟨hword, hplain, before, after, rfl, hbefore, hafter⟩)
    · exact ⟨hne, hfront, [], back, rfl, nofun, hback⟩
    · refine ⟨hword, hplain, front ++ before, after, by simp, fun c hc => ?_, hafter⟩
      cases hlast : before.getLast? with
      | some d =>
        obtain rfl : d = c := by simpa [List.getLast?_append, hlast] using hc
        exact hbefore d hlast
      -- The word would begin where the front has to be followed by a blank.
      | none =>
        obtain rfl := List.getLast?_eq_none_iff.1 hlast
        obtain ⟨d, word, rfl⟩ := List.exists_cons_of_ne_nil hword
        have hblank := hback d (by simp)
        simp [hplain d List.mem_cons_self] at hblank

/-- What is found are the words of the text. -/
theorem mem_words_iff {word text : List Char} : word ∈ words text ↔ IsWord word text := by
  -- The induction is on the length, since a word is taken off the text as a whole.
  induction hlength : text.length using Nat.strong_induction_on generalizing text with
  | h n ih =>
    cases text with
    | nil => exact iff_of_false List.not_mem_nil (not_isWord_nil word)
    | cons c rest =>
      by_cases hblank : isBlank c = true
      · rw [words_cons_of_isBlank hblank, isWord_cons_iff_of_isBlank hblank]
        exact ih rest.length (by simp [← hlength]) rfl
      · rw [Bool.not_eq_true] at hblank
        have hsplit : c :: rest =
            (c :: rest.takeWhile (!isBlank ·)) ++ rest.dropWhile (!isBlank ·) := by
          rw [List.cons_append, List.takeWhile_append_dropWhile]
        have hrest := List.length_dropWhile_le (!isBlank ·) rest
        rw [words_cons_of_not_isBlank hblank, List.mem_cons, hsplit, isWord_append_iff,
          ih (rest.dropWhile (!isBlank ·)).length (by simp [← hlength]; omega) rfl]
        · exact List.cons_ne_nil _ _
        · rw [List.forall_mem_cons]
          refine ⟨hblank, fun d hd => ?_⟩
          simpa using List.mem_takeWhile_imp hd
        · intro d hd
          have hstop := List.head?_dropWhile_not (!isBlank ·) rest
          rw [Option.mem_def.1 hd] at hstop
          simpa using hstop

/-! ## Names -/

theorem globHolds_one_cons_iff {c : Char} {items : List GlobItem} {cs : List Char} :
    globHolds (.one c :: items) cs = true ↔
      ∃ rest, cs = c :: rest ∧ globHolds items rest = true := by
  have hstar : GlobItem.one c = .star → False := nofun
  cases cs with
  | nil =>
    rw [globHolds.eq_4 _ _ hstar]
    simp
  | cons d rest =>
    rw [globHolds.eq_5 _ _ _ _ hstar, GlobItem.holds, Bool.and_eq_true, decide_eq_true_eq]
    constructor
    · rintro ⟨rfl, hrest⟩
      exact ⟨rest, rfl, hrest⟩
    · rintro ⟨more, hcs, hmore⟩
      obtain ⟨rfl, rfl⟩ := List.cons_eq_cons.1 hcs
      exact ⟨rfl, hmore⟩

/-- Plain characters stand for themselves. -/
theorem globHolds_literal_append_iff {literal : List Char} {items : List GlobItem}
    {cs : List Char} : globHolds (literal.map .one ++ items) cs = true ↔
      ∃ rest, cs = literal ++ rest ∧ globHolds items rest = true := by
  induction literal generalizing cs with
  | nil => simp
  | cons c literal ih =>
    rw [List.map_cons, List.cons_append, globHolds_one_cons_iff]
    constructor
    · rintro ⟨rest, rfl, hrest⟩
      obtain ⟨more, rfl, hmore⟩ := ih.1 hrest
      exact ⟨more, rfl, hmore⟩
    · rintro ⟨more, rfl, hmore⟩
      exact ⟨_, rfl, ih.2 ⟨more, rfl, hmore⟩⟩

/-- A star stands for any characters. -/
theorem globHolds_star_cons_iff {items : List GlobItem} {cs : List Char} :
    globHolds (.star :: items) cs = true ↔
      ∃ middle rest, cs = middle ++ rest ∧ globHolds items rest = true := by
  induction cs with
  | nil =>
    rw [globHolds]
    simp
  | cons c cs ih =>
    -- The star takes nothing, or the first character and what it takes of the rest.
    rw [globHolds, Bool.or_eq_true, ih]
    constructor
    · rintro (h | ⟨middle, rest, rfl, h⟩)
      · exact ⟨[], c :: cs, rfl, h⟩
      · exact ⟨c :: middle, rest, rfl, h⟩
    · rintro ⟨middle, rest, hcs, h⟩
      cases middle with
      | nil => exact .inl (hcs ▸ h)
      | cons d middle =>
        obtain ⟨-, rfl⟩ := List.cons_eq_cons.1 hcs
        exact .inr ⟨middle, rest, rfl, h⟩

theorem globHolds_nil_iff {cs : List Char} : globHolds [] cs = true ↔ cs = [] := by
  simp [globHolds]

end PackageLint.Text
