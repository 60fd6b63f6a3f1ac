/-!
# Lines of a text

A text is cut at line ends. A carriage return followed by a line feed is one line end, and a text
that ends in a line end has no empty last line. `normalizeNewlines` is what reading a file as text
does to its line ends.

## Main results

* `splitLines_joinLines`: lines that are not empty are the lines of the text they make;
* `splitLines_joinLines_or`: other lines are so too, but for a last one that is empty;
* `splitLines_append_newline_append`: what stands behind a line feed is cut by itself;
* `splitLines_append_newline_or`: a line feed at the end adds an empty line or none;
* `not_isLineEnd_of_mem_splitLines`: no line holds a line end.
-/

namespace PackageLint.Text

/-- The characters that end a line. -/
def isLineEnd (c : Char) : Bool :=
  let n := c.toNat
  (0x0A ≤ n && n ≤ 0x0D) || (0x1C ≤ n && n ≤ 0x1E) || n == 0x85 || n == 0x2028 || n == 0x2029

/-- The lines of a text, without their line ends. -/
def splitLines : List Char → List (List Char)
  | [] => []
  | '\r' :: '\n' :: rest => [] :: splitLines rest
  | c :: rest =>
    if isLineEnd c then [] :: splitLines rest
    else match splitLines rest with
      | [] => [[c]]
      | line :: others => (c :: line) :: others

/-- The lines of a string. -/
def linesOf (s : String) : List (List Char) := splitLines s.toList

/-- Lines written one after the other with a line feed between them. -/
def joinLines : List (List Char) → List Char
  | [] => []
  | [line] => line
  | line :: others => line ++ '\n' :: joinLines others

/-- Every carriage return, alone or before a line feed, becomes a line feed. -/
def normalizeNewlines : List Char → List Char
  | [] => []
  | '\r' :: '\n' :: rest => '\n' :: normalizeNewlines rest
  | c :: rest => (if c = '\r' then '\n' else c) :: normalizeNewlines rest

@[simp] theorem splitLines_nil : splitLines [] = [] := rfl

/-- A line feed in front of a text opens it with an empty line. -/
@[simp] theorem splitLines_newline (rest : List Char) :
    splitLines ('\n' :: rest) = [] :: splitLines rest := by
  rw [splitLines]
  · simp [isLineEnd]
  · intro _ h; cases h

theorem splitLines_cons {c : Char} (h : isLineEnd c = false) (rest : List Char) :
    splitLines (c :: rest) = match splitLines rest with
      | [] => [[c]]
      | line :: others => (c :: line) :: others := by
  rw [splitLines.eq_3 _ _ (by rintro r rfl; exact absurd h (by decide)), h]
  rfl

/-- A line feed ends the line before it. -/
theorem splitLines_append_newline {line : List Char} (h : ∀ c ∈ line, isLineEnd c = false)
    (rest : List Char) : splitLines (line ++ '\n' :: rest) = line :: splitLines rest := by
  induction line with
  | nil => exact splitLines_newline rest
  | cons c line ih =>
    rw [List.forall_mem_cons] at h
    rw [List.cons_append, splitLines_cons h.1, ih h.2]

/-- A text without line ends is a line, unless it is empty. -/
theorem splitLines_of_not_isLineEnd {line : List Char} (h : ∀ c ∈ line, isLineEnd c = false)
    (hne : line ≠ []) : splitLines line = [line] := by
  induction line with
  | nil => exact absurd rfl hne
  | cons c line ih =>
    rw [List.forall_mem_cons] at h
    rw [splitLines_cons h.1]
    cases line with
    | nil => rfl
    | cons d line => rw [ih h.2 (by simp)]

/-- Lines that are not empty are the lines of the text they make. -/
theorem splitLines_joinLines {lines : List (List Char)}
    (h : ∀ line ∈ lines, line ≠ [] ∧ ∀ c ∈ line, isLineEnd c = false) :
    splitLines (joinLines lines) = lines := by
  induction lines with
  | nil => rfl
  | cons line lines ih =>
    rw [List.forall_mem_cons] at h
    cases lines with
    | nil => exact splitLines_of_not_isLineEnd h.1.2 h.1.1
    | cons next lines =>
      rw [joinLines.eq_3 _ _ (by simp), splitLines_append_newline h.1.2, ih h.2]

/-- Lines are the lines of the text they make, but for a last one that is empty. -/
theorem splitLines_joinLines_or {lines : List (List Char)}
    (h : ∀ line ∈ lines, ∀ c ∈ line, isLineEnd c = false) :
    splitLines (joinLines lines) = lines ∨ splitLines (joinLines lines) ++ [[]] = lines := by
  induction lines with
  | nil => exact .inl rfl
  | cons line lines ih =>
    rw [List.forall_mem_cons] at h
    cases lines with
    | nil =>
      by_cases hline : line = []
      · exact .inr (by rw [hline]; rfl)
      · exact .inl (splitLines_of_not_isLineEnd h.1 hline)
    | cons next lines =>
      rw [joinLines.eq_3 _ _ (by simp), splitLines_append_newline h.1, List.cons_append]
      simpa using ih h.2

/-- Only the empty text has no lines. -/
theorem splitLines_ne_nil {text : List Char} (h : text ≠ []) : splitLines text ≠ [] := by
  fun_cases splitLines text <;> simp_all

/-- A line end, unless it is the first half of one, ends a line. -/
theorem splitLines_cons_of_isLineEnd {c : Char} {rest : List Char} (h : isLineEnd c = true)
    (hwhole : ∀ tail, c = '\r' → rest ≠ '\n' :: tail) :
    splitLines (c :: rest) = [] :: splitLines rest := by
  rw [splitLines.eq_3 _ _ hwhole, if_pos h]

/-- A carriage return with something else behind it is no first half of a line end, whatever is
written behind that. -/
theorem append_ne_newline_cons {c : Char} {front : List Char}
    (hpair : ∀ rest, c = '\r' → front = '\n' :: rest → False)
    (hhalf : ¬ (c = '\r' ∧ front = [])) (text tail : List Char) (hc : c = '\r') :
    front ++ text ≠ '\n' :: tail := by
  intro heq
  cases front with
  | nil => exact hhalf ⟨hc, rfl⟩
  | cons d front =>
    obtain ⟨rfl, -⟩ := List.cons.inj heq
    exact hpair front hc rfl

/-- What stands behind a line feed is cut into lines by itself. -/
theorem splitLines_append_newline_append (front rest : List Char) :
    splitLines (front ++ ['\n'] ++ rest) = splitLines (front ++ ['\n']) ++ splitLines rest := by
  fun_induction splitLines front with
  | case1 => simp
  | case2 front ih => simpa [splitLines] using ih
  | case3 c front hpair hend ih =>
    by_cases hhalf : c = '\r' ∧ front = []
    -- The line feed is the second half of a line end.
    · obtain ⟨rfl, rfl⟩ := hhalf
      simp [splitLines]
    · have hwhole := append_ne_newline_cons hpair hhalf
      have hbehind : ∀ tail, c = '\r' → front ++ ['\n'] ++ rest ≠ '\n' :: tail := by
        rw [List.append_assoc]
        exact hwhole _
      rw [List.cons_append, List.cons_append, splitLines_cons_of_isLineEnd hend (hwhole _),
        splitLines_cons_of_isLineEnd hend hbehind, ih, List.cons_append]
  | case4 c front _ hend _ ih
  | case5 c front _ hend _ _ _ ih =>
    -- The character goes to the first of the lines behind it, and there is one.
    have hne : splitLines (front ++ ['\n']) ≠ [] := splitLines_ne_nil (by simp)
    obtain ⟨line, others, hlines⟩ := List.exists_cons_of_ne_nil hne
    rw [List.cons_append, List.cons_append, splitLines_cons (by simpa using hend), ih,
      splitLines_cons (by simpa using hend), hlines]
    rfl

/-- A line feed at the end of a text ends its last line, or is an empty line behind a line end. -/
theorem splitLines_append_newline_or (text : List Char) :
    splitLines (text ++ ['\n']) = splitLines text ∨
      splitLines (text ++ ['\n']) = splitLines text ++ [[]] := by
  fun_induction splitLines text with
  | case1 => exact .inr (by simp)
  | case2 rest ih => simpa [splitLines] using ih
  | case3 c rest hpair hend ih =>
    by_cases hhalf : c = '\r' ∧ rest = []
    -- The line feed is the second half of a line end.
    · obtain ⟨rfl, rfl⟩ := hhalf
      exact .inl (by simp [splitLines])
    · have hwhole := append_ne_newline_cons hpair hhalf ['\n']
      rw [List.cons_append, splitLines_cons_of_isLineEnd hend hwhole]
      simpa using ih
  | case4 c rest _ hend hrest ih =>
    -- Only an empty text has no lines.
    cases rest with
    | nil => exact .inl (by rw [List.cons_append, splitLines_cons (by simpa using hend)]; simp)
    | cons d rest => exact absurd hrest (splitLines_ne_nil (by simp))
  | case5 c rest _ hend line others hrest ih =>
    rw [List.cons_append, splitLines_cons (by simpa using hend)]
    rw [hrest] at ih
    rcases ih with ih | ih <;> simp [ih]

/-- A text starts as its first line does, unless this line is empty. -/
theorem exists_eq_cons_of_splitLines {text line : List Char} {c : Char}
    {others : List (List Char)} (h : splitLines text = (c :: line) :: others) :
    ∃ rest, text = c :: rest := by
  fun_cases splitLines text with
  | case1 => cases h
  | case2 rest => cases h
  | case3 d rest _ hend => simp [splitLines, hend] at h
  | case4 d rest _ hend hrest =>
    rw [splitLines_cons (by simpa using hend), hrest] at h
    cases h
    exact ⟨rest, rfl⟩
  | case5 d rest _ hend first others' hrest =>
    rw [splitLines_cons (by simpa using hend), hrest] at h
    cases h
    exact ⟨rest, rfl⟩

/-- No line holds a line end. -/
theorem not_isLineEnd_of_mem_splitLines (text : List Char) :
    ∀ line ∈ splitLines text, ∀ c ∈ line, isLineEnd c = false := by
  fun_induction splitLines text with
  | case1 => simp
  | case2 rest ih => simpa using ih
  | case3 c rest _ hc ih => simpa using ih
  | case4 c rest _ hc hrest ih => simpa using hc
  | case5 c rest _ hc line others hrest ih =>
    rw [hrest] at ih
    intro l hl d hd
    rcases List.mem_cons.1 hl with rfl | hl
    · rcases List.mem_cons.1 hd with rfl | hd
      · simpa using hc
      · exact ih _ (by simp) d hd
    · exact ih l (by simp [hl]) d hd

end PackageLint.Text
