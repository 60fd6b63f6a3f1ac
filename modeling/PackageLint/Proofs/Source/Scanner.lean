import Mathlib
import PackageLint.Proofs.Source.Comment

/-!
# The two scanners of a line

Braces are counted by one scanner, and comments are cut off by another. Both know texts, escapes and
comments, but only the first one knows quoted characters: behind a double quote in quotes it goes on
in code, where the second one is inside of a text. So they find the same comment as long as no such
quote stands on the line, and behind one they go on with their parts exchanged.

## Main definitions

* `scanned`: what the scanner of braces goes over, which is the line up to its comment;
* `commentStart?`: the place of the comment at which it stops;
* `behindQuotedQuote?`: what it finds behind the first double quote in quotes.

## Main results

* `codeChars_scanned`: all code is found in what is scanned;
* `commentlessFrom_eq_scannedFrom_iff`: when both scanners stop at the same place;
* `withoutComment_eq_take_commentStart?_iff`: the same for a line by where its code ends, and what
  follows from it.
-/

namespace PackageLint.Source

/-- What the scanner of braces goes over, inside a text or outside of one: all of the line up to its
comment. -/
def scannedFrom : (inText : Bool) → Line → Line
  | _, [] => []
  | true, '\\' :: c :: rest => '\\' :: c :: scannedFrom true rest
  | true, c :: rest => c :: scannedFrom (c != '"') rest
  | false, '"' :: rest => '"' :: scannedFrom true rest
  | false, '/' :: '/' :: _ => []
  | false, '\'' :: c :: '\'' :: rest => '\'' :: c :: '\'' :: scannedFrom false rest
  | false, c :: rest => c :: scannedFrom false rest

/-- What the scanner of braces goes over on a line. -/
def scanned (line : Line) : Line := scannedFrom false line

/-- The place of the comment at which the scanner of braces stops, if it stops at one. -/
def commentStart? (line : Line) : Option Nat :=
  if scanned line = line then none else some (scanned line).length

/-- What stands behind the first double quote in quotes that the scanner of braces finds. -/
def behindQuotedQuote? : (inText : Bool) → Line → Option Line
  | _, [] => none
  | true, '\\' :: _ :: rest => behindQuotedQuote? true rest
  | true, c :: rest => behindQuotedQuote? (c != '"') rest
  | false, '"' :: rest => behindQuotedQuote? true rest
  | false, '/' :: '/' :: _ => none
  | false, '\'' :: c :: '\'' :: rest => if c = '"' then some rest else behindQuotedQuote? false rest
  | false, _ :: rest => behindQuotedQuote? false rest

/-! ## What is scanned -/

theorem scannedFrom_isPrefix (inText : Bool) (line : Line) : scannedFrom inText line <+: line := by
  fun_induction scannedFrom inText line <;> simp_all

theorem scanned_isPrefix (line : Line) : scanned line <+: line := scannedFrom_isPrefix false line

/-- Behind what is scanned nothing stands but a comment. -/
theorem scannedFrom_append_comment (inText : Bool) (line : Line) :
    scannedFrom inText line = line ∨
      ∃ comment, line = scannedFrom inText line ++ '/' :: '/' :: comment := by
  fun_induction scannedFrom inText line with
  | case5 rest => exact .inr ⟨rest, rfl⟩
  | _ => simp_all

/-- At a comment the scanner of braces stops, whatever the comment says. -/
theorem codeFrom_scannedFrom_append {inText : Bool} {line : Line}
    (h : scannedFrom inText line ≠ line) (comment : Line) :
    codeFrom inText (scannedFrom inText line ++ '/' :: '/' :: comment) =
      codeFrom inText (scannedFrom inText line) := by
  fun_induction scannedFrom inText line with
  | case1 => exact absurd rfl h
  | case2 c rest ih =>
    simp only [List.cons_append, codeFrom]
    exact ih (by simpa using h)
  | case3 c rest hescape ih =>
    have hrest : scannedFrom (c != '"') rest ≠ rest := by simpa using h
    obtain ⟨own, hown⟩ := (scannedFrom_append_comment (c != '"') rest).resolve_left hrest
    -- Something stands behind the character, so it is no backslash.
    have hc : c ≠ '\\' := by
      rintro rfl
      cases rest with
      | nil => simp at hown
      | cons d others => exact hescape d others rfl rfl
    rw [List.cons_append, codeFrom.eq_3 _ _ fun _ _ hback => absurd hback hc,
      codeFrom.eq_3 _ _ fun _ _ hback => absurd hback hc, ih hrest]
  | case4 rest ih =>
    simp only [List.cons_append, codeFrom]
    exact ih (by simpa using h)
  | case5 => simp [codeFrom]
  | case6 c rest ih =>
    simp only [List.cons_append, codeFrom]
    exact ih (by simpa using h)
  | case7 c rest hquote hslash hquoted ih =>
    have hrest : scannedFrom false rest ≠ rest := by simpa using h
    obtain ⟨own, hown⟩ := (scannedFrom_append_comment false rest).resolve_left hrest
    specialize ih hrest
    -- The two characters behind this one are the same with every comment.
    generalize scannedFrom false rest = part at hown ih
    subst hown
    rw [List.cons_append, codeFrom.eq_7 _ _ hquote, codeFrom.eq_7 _ _ hquote, ih]
    · rintro others hc rfl
      exact hslash _ hc rfl
    · rintro d others hc rfl
      exact hquoted _ _ hc rfl
    · intro others hc hpart
      cases part with
      | nil => exact hslash _ hc rfl
      | cons d part =>
        obtain ⟨rfl, -⟩ := List.cons.inj hpart
        exact hslash _ hc rfl
    · intro d others hc hpart
      rcases part with _ | ⟨x, _ | ⟨y, part⟩⟩
      · simp at hpart
      · simp at hpart
      · obtain ⟨-, htail⟩ := List.cons.inj hpart
        obtain ⟨rfl, -⟩ := List.cons.inj htail
        exact hquoted _ _ hc rfl

/-! ## Where both scanners stop -/

theorem commentlessFrom_quoted {c : Char} (hc : c ≠ '"') (rest : Line) :
    commentlessFrom false ('\'' :: c :: '\'' :: rest) =
      '\'' :: c :: '\'' :: commentlessFrom false rest := by
  rw [commentlessFrom.eq_6, commentlessFrom.eq_6, commentlessFrom.eq_6] <;> simp [hc]

/-- Both scanners stop at the same place, unless there is a double quote in quotes: then the one
goes on inside of a text, the other one in code, and they have to stop at the same place behind
it. -/
theorem commentlessFrom_eq_scannedFrom_iff (inText : Bool) (line : Line) :
    commentlessFrom inText line = scannedFrom inText line ↔
      ∀ rest ∈ behindQuotedQuote? inText line,
        commentlessFrom true rest = scannedFrom false rest := by
  fun_induction behindQuotedQuote? inText line with
  | case1 => simp [commentlessFrom, scannedFrom]
  | case2 c rest ih => simpa [commentlessFrom, scannedFrom] using ih
  | case3 c rest hescape ih =>
    rw [commentlessFrom.eq_3 _ _ hescape, scannedFrom.eq_3 _ _ hescape, List.cons_inj_right, ih]
  | case4 rest ih => simpa [commentlessFrom, scannedFrom] using ih
  | case5 => simp [commentlessFrom, scannedFrom]
  | case6 rest => simp [commentlessFrom, scannedFrom]
  | case7 c rest hc ih =>
    rw [commentlessFrom_quoted hc, scannedFrom]
    simpa using ih
  | case8 c rest hquote hslash hquoted ih =>
    rw [commentlessFrom.eq_6 _ _ hquote hslash, scannedFrom.eq_7 _ _ hquote hslash hquoted,
      List.cons_inj_right, ih]

/-- The scanner of comments stands inside a text up to the next double quote. -/
theorem commentlessFrom_true_eq_self {line : Line} (h : '"' ∉ line) :
    commentlessFrom true line = line := by
  generalize htext : true = inText
  fun_induction commentlessFrom inText line with
  | case1 => rfl
  | case2 c rest ih =>
    simp only [List.mem_cons, not_or] at h
    rw [ih h.2.2 rfl]
  | case3 c rest hescape ih =>
    simp only [List.mem_cons, not_or] at h
    rw [ih h.2 (by simp [Ne.symm h.1])]
  | case4 | case5 | case6 => cases htext

/-- Behind a double quote in quotes with no other one behind it no comment is cut off. -/
theorem commentlessFrom_eq_self_of_mem {inText : Bool} {line rest : Line}
    (hrest : rest ∈ behindQuotedQuote? inText line) (h : '"' ∉ rest) :
    commentlessFrom inText line = line := by
  fun_induction behindQuotedQuote? inText line with
  | case1 => cases hrest
  | case2 c others ih => rw [commentlessFrom, ih hrest]
  | case3 c others hescape ih => rw [commentlessFrom.eq_3 _ _ hescape, ih hrest]
  | case4 others ih => rw [commentlessFrom, ih hrest]
  | case5 => cases hrest
  | case6 others =>
    obtain rfl : others = rest := by simpa using hrest
    simp [commentlessFrom, commentlessFrom_true_eq_self h]
  | case7 c others hc ih => rw [commentlessFrom_quoted hc, ih hrest]
  | case8 c others hquote hslash hquoted ih =>
    rw [commentlessFrom.eq_6 _ _ hquote hslash, ih hrest]

/-- A double quote in quotes is a part of the line. -/
theorem isInfix_of_mem_behindQuotedQuote? {inText : Bool} {line rest : Line}
    (hrest : rest ∈ behindQuotedQuote? inText line) : ['\'', '"', '\''] <:+: line := by
  fun_induction behindQuotedQuote? inText line with
  | case1 => cases hrest
  | case2 c others ih => exact List.infix_cons (List.infix_cons (ih hrest))
  | case3 c others hescape ih => exact List.infix_cons (ih hrest)
  | case4 others ih => exact List.infix_cons (ih hrest)
  | case5 => cases hrest
  | case6 others => exact ⟨[], others, rfl⟩
  | case7 c others hc ih =>
    exact List.infix_cons (List.infix_cons (List.infix_cons (ih hrest)))
  | case8 c others hquote hslash hquoted ih => exact List.infix_cons (ih hrest)

/-! ## Where code ends -/

/-- All code is found in what is scanned. -/
theorem codeChars_scanned (line : Line) : codeChars (scanned line) = codeChars line := by
  by_cases h : scannedFrom false line = line
  · rw [scanned, h]
  · obtain ⟨comment, hcomment⟩ := (scannedFrom_append_comment false line).resolve_left h
    conv_rhs => rw [hcomment, codeChars, codeFrom_scannedFrom_append h]
    rfl

/-- What is scanned is the line up to the comment, or all of it where there is none. -/
theorem elim_commentStart? (line : Line) :
    (commentStart? line).elim line line.take = scanned line := by
  rw [commentStart?]
  split_ifs with h
  · exact h.symm
  · exact (List.prefix_iff_eq_take.1 (scanned_isPrefix line)).symm

/-- Comments are cut off where the scanner of braces finds them exactly if it finds no double quote
in quotes, or stops behind the first one where a scan from the inside of a text does. So it is on a
line that does not hold such a quote, and code and braces are then the same without the comment.
Behind one with no other double quote behind it no comment is cut off. What is cut once is not cut
again. -/
theorem withoutComment_eq_take_commentStart?_iff (line : Line) :
    (withoutComment line = (commentStart? line).elim line line.take ↔
      ∀ rest ∈ behindQuotedQuote? false line,
        commentlessFrom true rest = scannedFrom false rest) ∧
    (¬ ['\'', '"', '\''] <:+: line →
      withoutComment line = (commentStart? line).elim line line.take) ∧
    (∀ rest ∈ behindQuotedQuote? false line, '"' ∉ rest → withoutComment line = line) ∧
    (withoutComment line = (commentStart? line).elim line line.take →
      braceDelta (withoutComment line) = braceDelta line ∧
        closingBraces (withoutComment line) = closingBraces line) ∧
    withoutComment (withoutComment line) = withoutComment line := by
  rw [elim_commentStart?]
  have hiff := commentlessFrom_eq_scannedFrom_iff false line
  refine ⟨hiff, fun hquote => ?_, fun rest hrest h => commentlessFrom_eq_self_of_mem hrest h,
    fun hagree => ?_, withoutComment_withoutComment line⟩
  · exact hiff.2 fun rest hrest => absurd (isInfix_of_mem_behindQuotedQuote? hrest) hquote
  · rw [hagree, braceDelta, braceDelta, closingBraces, closingBraces, codeChars_scanned]
    exact ⟨rfl, rfl⟩

/-- A brace in quotes is no brace, and a comment behind a text is cut off. -/
theorem withoutComment_eq_take_commentStart?_brace :
    let line := "case '\x7b': \"//\" // '\x7d' and \"\x7d\"".toList
    ¬ ['\'', '"', '\''] <:+: line ∧
      withoutComment line = (commentStart? line).elim line line.take := by
  intro line
  have hquote : ¬ ['\'', '"', '\''] <:+: line := by simp [line, List.infix_cons_iff]
  exact ⟨hquote, (withoutComment_eq_take_commentStart?_iff line).2.1 hquote⟩

/-- A double quote in quotes hides the comment behind it. -/
theorem withoutComment_ne_take_commentStart? :
    let line := "case '\"' // a quote".toList
    withoutComment line ≠ (commentStart? line).elim line line.take := by
  decide +kernel

end PackageLint.Source
