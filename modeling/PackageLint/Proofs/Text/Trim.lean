import Mathlib.Data.List.DropRight
import Mathlib.Data.List.TakeWhile
import PackageLint.Text.Blank

/-!
# Trimming

What is left of a text without the blanks at its start and its end.

## Main definitions

* `leadingBlanks` and `trailingBlanks`: the blanks that are trimmed.

## Main results

* `trim_eq_nil_iff`: nothing is left of blanks only;
* `trim_append_of_isBlank`: blanks in front make no difference;
* `trim_append_cons`: a text is trimmed up to its first character that is no blank;
* `trim_append_append`: a text that starts and ends with other characters is left as it is;
* `leadingBlanks_append_trim` and `exists_eq_append_trim`: a text is what is left of it, with blanks
  on both sides;
* `trim_trim`: what is left has no blanks at its start and its end.
-/

namespace PackageLint.Text

/-- Nothing is left of a text of blanks, and of no other one. -/
theorem trim_eq_nil_iff {cs : List Char} : trim cs = [] ↔ ∀ c ∈ cs, isBlank c = true := by
  have hstart : (∀ c ∈ trimStart cs, isBlank c = true) ↔ ∀ c ∈ cs, isBlank c = true := by
    induction cs with
    | nil => rfl
    | cons c cs ih =>
      by_cases hc : isBlank c = true
      · rw [trimStart, List.dropWhile_cons_of_pos hc, ← trimStart, ih]
        simp [hc]
      · rw [trimStart, List.dropWhile_cons_of_neg hc]
  rw [← hstart, trim, trimEnd, List.reverse_eq_nil_iff, List.dropWhile_eq_nil_iff]
  simp

/-- What is no blank stays, and what stands behind it is trimmed at its end. -/
theorem trimEnd_cons {c : Char} (h : isBlank c = false) (cs : List Char) :
    trimEnd (c :: cs) = c :: trimEnd cs := by
  rw [trimEnd, List.reverse_cons, List.dropWhile_append]
  split_ifs with hempty
  · rw [List.isEmpty_iff] at hempty
    simp [trimEnd, hempty, h]
  · simp [trimEnd]

/-- Blanks in front of a text make no difference to what is left of it. -/
theorem trim_append_of_isBlank {blanks : List Char} (hblanks : ∀ b ∈ blanks, isBlank b = true)
    (cs : List Char) : trim (blanks ++ cs) = trim cs := by
  rw [trim, trim, trimStart, trimStart, List.dropWhile_append_of_pos hblanks]

/-- Blanks in front of a text are trimmed up to its first character that is none. -/
theorem trim_append_cons {blanks : List Char} {c : Char} (hblanks : ∀ b ∈ blanks, isBlank b = true)
    (h : isBlank c = false) (cs : List Char) : trim (blanks ++ c :: cs) = c :: trimEnd cs := by
  rw [trim_append_of_isBlank hblanks, trim, trimStart,
    List.dropWhile_cons_of_neg (Bool.eq_false_iff.1 h), trimEnd_cons h]

/-- Blanks in front of a text that starts with another character are trimmed. -/
theorem trimStart_append {blanks core : List Char} (hblanks : ∀ b ∈ blanks, isBlank b = true)
    (hcore : ∀ c ∈ core.head?, isBlank c = false) : trimStart (blanks ++ core) = core := by
  rw [trimStart, List.dropWhile_append_of_pos hblanks]
  cases core with
  | nil => rfl
  | cons c core => exact List.dropWhile_cons_of_neg (by simpa using hcore c rfl)

/-- A text that starts and ends with other characters is what is left of it among blanks. -/
theorem trim_append_append {front core back : List Char}
    (hfront : ∀ b ∈ front, isBlank b = true) (hback : ∀ b ∈ back, isBlank b = true)
    (hne : core ≠ []) (hhead : ∀ c ∈ core.head?, isBlank c = false)
    (hlast : ∀ c ∈ core.getLast?, isBlank c = false) : trim (front ++ core ++ back) = core := by
  have hstart : trimStart (front ++ (core ++ back)) = core ++ back := by
    refine trimStart_append hfront fun c hc => hhead c ?_
    obtain ⟨first, core, rfl⟩ := List.exists_cons_of_ne_nil hne
    exact hc
  have hend : trimStart (back.reverse ++ core.reverse) = core.reverse := by
    refine trimStart_append (by simpa using hback) fun c hc => hlast c ?_
    rwa [List.head?_reverse] at hc
  rw [List.append_assoc, trim, hstart, trimEnd, List.reverse_append]
  exact (congrArg List.reverse hend).trans core.reverse_reverse

/-! ## The blanks around a text -/

/-- The blanks at the start of a text. -/
def leadingBlanks (cs : List Char) : List Char := cs.takeWhile isBlank

/-- The blanks at the end of a text; a text of blanks only has all of them at its start. -/
def trailingBlanks (cs : List Char) : List Char := (trimStart cs).rtakeWhile isBlank

section Around

variable (cs : List Char)

theorem isBlank_of_mem_leadingBlanks {cs : List Char} {c : Char} (h : c ∈ leadingBlanks cs) :
    isBlank c = true :=
  List.mem_takeWhile_imp h

theorem isBlank_of_mem_trailingBlanks {cs : List Char} {c : Char} (h : c ∈ trailingBlanks cs) :
    isBlank c = true :=
  List.mem_rtakeWhile_imp h

theorem trim_append_trailingBlanks : trim cs ++ trailingBlanks cs = trimStart cs :=
  List.rdropWhile_append_rtakeWhile

/-- A text is what is left of it between the blanks at its start and at its end. -/
theorem leadingBlanks_append_trim : leadingBlanks cs ++ trim cs ++ trailingBlanks cs = cs := by
  rw [List.append_assoc, trim_append_trailingBlanks]
  exact takeWhile_append_trimStart cs

/-- A text is what is left of it, with blanks on both sides. -/
theorem exists_eq_append_trim :
    ∃ front back, cs = front ++ trim cs ++ back ∧ (∀ b ∈ front, isBlank b = true) ∧
      ∀ b ∈ back, isBlank b = true :=
  ⟨leadingBlanks cs, trailingBlanks cs, (leadingBlanks_append_trim cs).symm,
    fun _ => isBlank_of_mem_leadingBlanks, fun _ => isBlank_of_mem_trailingBlanks⟩

theorem leadingBlanks_trim : leadingBlanks (trim cs) = [] := by
  cases htrim : trim cs with
  | nil => rfl
  | cons c rest =>
    have hstart : trimStart cs = c :: (rest ++ trailingBlanks cs) := by
      rw [← trim_append_trailingBlanks, htrim, List.cons_append]
    have hc : isBlank c = false := by
      have hhead := List.head?_dropWhile_not isBlank cs
      rw [← trimStart, hstart] at hhead
      simpa using hhead
    exact List.takeWhile_cons_of_neg (by simp [hc])

theorem trimStart_trim : trimStart (trim cs) = trim cs := by
  have h := takeWhile_append_trimStart (trim cs)
  rwa [← leadingBlanks, leadingBlanks_trim, List.nil_append] at h

theorem trailingBlanks_trim : trailingBlanks (trim cs) = [] := by
  rw [trailingBlanks, trimStart_trim, List.rtakeWhile_eq_nil_iff]
  exact fun hne => List.rdropWhile_last_not isBlank _ hne

/-- Nothing is trimmed a second time. -/
theorem trim_trim : trim (trim cs) = trim cs := by
  rw [trim, trimStart_trim, trim]
  exact List.rdropWhile_idempotent isBlank _

end Around

end PackageLint.Text
