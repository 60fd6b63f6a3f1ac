import Mathlib
import PackageLint.Source.Code

/-!
# Braces in literals and comments

Where the scanner of braces stands in code, a line can be cut in two parts whose braces are counted
one by one. The scanner looks ahead, though: behind a single quote it looks at the next two
characters, and behind a slash at the next one, so what stands at the cut must not complete what the
first part begins. A literal at the cut adds no brace, whatever it holds, and a comment takes all
braces behind it away.

## Main definitions

* `scanEnd`: where the scanner stands at the end of a line;
* `IsTextBody`: what may stand between the double quotes of a text;
* `IsLiteral`: a text with its quotes, or a character in quotes.

## Main results

* `codeFrom_append_singleton`: a letter behind a line is code exactly if the scan of the line ends
  in code;
* `count_codeFrom_append`: the code of both parts of a line;
* `braces_append_of_scanEnd`: literals and comments behind a line whose scan ends in code.
-/

namespace PackageLint.Source

/-- Where a scan stands at the end of a line. -/
inductive ScanEnd
  /-- In code. -/
  | code
  /-- Inside a text whose closing quote has not come yet. -/
  | text
  /-- In a comment. -/
  | comment
  deriving DecidableEq, Repr

/-- Where a scan that starts inside a text or outside of one stands at the end of a line. -/
def scanEndFrom : (inText : Bool) → Line → ScanEnd
  | true, [] => .text
  | false, [] => .code
  | true, '\\' :: _ :: rest => scanEndFrom true rest
  | true, c :: rest => scanEndFrom (c != '"') rest
  | false, '"' :: rest => scanEndFrom true rest
  | false, '/' :: '/' :: _ => .comment
  | false, '\'' :: _ :: '\'' :: rest => scanEndFrom false rest
  | false, _ :: rest => scanEndFrom false rest

/-- Where the scan of a line stands at its end. -/
def scanEnd (line : Line) : ScanEnd := scanEndFrom false line

/-- What may stand between the double quotes of a text: characters other than the double quote and
the backslash, and any character behind a backslash. -/
inductive IsTextBody : Line → Prop
  | nil : IsTextBody []
  | plain {c : Char} {rest : Line} (hquote : c ≠ '"') (hback : c ≠ '\\') (h : IsTextBody rest) :
      IsTextBody (c :: rest)
  | escaped (c : Char) {rest : Line} (h : IsTextBody rest) : IsTextBody ('\\' :: c :: rest)

/-- A text with its quotes, or a single character in quotes. -/
inductive IsLiteral : Line → Prop
  | text {body : Line} (h : IsTextBody body) : IsLiteral ('"' :: (body ++ ['"']))
  | quoted (c : Char) : IsLiteral ['\'', c, '\'']

/-! ## Where a scan ends -/

theorem codeFrom_true_cons {c : Char} (hback : c ≠ '\\') (rest : Line) :
    codeFrom true (c :: rest) = codeFrom (c != '"') rest :=
  codeFrom.eq_3 _ _ fun _ _ h => absurd h hback

/-- A letter, or any other character without a meaning of its own, is code exactly if it stands
behind a line whose scan ends in code. -/
theorem codeFrom_append_singleton {c : Char} (hquote : c ≠ '"') (hslash : c ≠ '/')
    (hsingle : c ≠ '\'') (inText : Bool) (line : Line) :
    codeFrom inText (line ++ [c]) =
      codeFrom inText line ++ if scanEndFrom inText line = .code then [c] else [] := by
  fun_induction scanEndFrom inText line with
  | case1 => simp [codeFrom]
  | case2 => simp [codeFrom]
  | case3 d rest ih => simpa [codeFrom] using ih
  | case4 d rest hescape ih =>
    by_cases hback : d = '\\'
    -- A backslash at the end protects the letter, which is not code inside a text anyway.
    · cases rest with
      | nil =>
        subst hback
        simp [codeFrom, scanEndFrom]
      | cons e more => exact absurd rfl (hescape e more hback)
    · rw [List.cons_append, codeFrom_true_cons hback, codeFrom_true_cons hback]
      exact ih
  | case5 rest ih => simpa [codeFrom] using ih
  | case6 rest => simp [codeFrom]
  | case7 d rest ih => simpa [codeFrom] using ih
  | case8 d rest hopen hcomment hquoted ih =>
    rw [List.cons_append, codeFrom.eq_7 _ _ hopen hcomment hquoted, codeFrom.eq_7 _ _ hopen, ih,
      List.cons_append]
    -- The letter completes neither two slashes nor a quoted character.
    · rintro tail rfl hrest
      cases rest with
      | nil => exact hslash (List.cons.inj hrest).1
      | cons e rest =>
        obtain ⟨rfl, -⟩ := List.cons.inj hrest
        exact hcomment rest rfl rfl
    · rintro e tail rfl hrest
      rcases rest with _ | ⟨e', _ | ⟨e'', rest⟩⟩
      · simp at hrest
      · obtain ⟨-, hlast⟩ := List.cons.inj hrest
        exact hsingle (List.cons.inj hlast).1
      · obtain ⟨-, htail⟩ := List.cons.inj hrest
        obtain ⟨rfl, -⟩ := List.cons.inj htail
        exact hquoted e' rest rfl rfl

/-! ## Two parts of a line -/

/-- What does not stand among the last two characters of a line does not stand among those of its
rest. -/
theorem notMem_rtake_of_cons {x c : Char} {line : Line} (h : x ∉ (c :: line).rtake 2) :
    x ∉ line.rtake 2 := by
  intro hx
  apply h
  rw [List.rtake, List.length_cons]
  rcases le_or_gt 2 line.length with hlength | hlength
  · rwa [Nat.succ_sub hlength, List.drop_succ_cons]
  · rw [Nat.sub_eq_zero_of_le hlength, List.drop_zero]
    exact List.mem_cons_of_mem c (List.mem_of_mem_drop hx)

/-- A character other than the slash occurs in the code of a line as often as in the code of both of
its parts, if the scan of the first part ends in code, no single quote stands among its last two
characters, and the second part does not begin with a single slash. -/
theorem count_codeFrom_append {x : Char} (hx : x ≠ '/') {inText : Bool} {line rest : Line}
    (hend : scanEndFrom inText line = .code) (hquote : '\'' ∉ line.rtake 2)
    (hslash : ∀ tail, rest = '/' :: tail → ∃ comment, tail = '/' :: comment) :
    (codeFrom inText (line ++ rest)).count x =
      (codeFrom inText line).count x + (codeFrom false rest).count x := by
  fun_induction scanEndFrom inText line with
  | case1 => cases hend
  | case2 => simp [codeFrom]
  | case3 c line ih =>
    have hrest := notMem_rtake_of_cons (notMem_rtake_of_cons hquote)
    simpa [codeFrom] using ih hend hrest
  | case4 c line hescape ih =>
    -- A backslash would protect the next character, or the scan would end inside the text.
    have hback : c ≠ '\\' := by
      rintro rfl
      cases line with
      | nil => simp [scanEndFrom] at hend
      | cons d line => exact hescape d line rfl rfl
    rw [List.cons_append, codeFrom_true_cons hback, codeFrom_true_cons hback]
    exact ih hend (notMem_rtake_of_cons hquote)
  | case5 line ih => simpa [codeFrom] using ih hend (notMem_rtake_of_cons hquote)
  | case6 => cases hend
  | case7 c line ih =>
    have hrest := notMem_rtake_of_cons (notMem_rtake_of_cons (notMem_rtake_of_cons hquote))
    simpa [codeFrom] using ih hend hrest
  | case8 c line hopen hcomment hquoted ih =>
    by_cases hcut : c = '/' ∧ line = [] ∧ ∃ tail, rest = '/' :: tail
    -- With a slash at the end of the first part the comment starts one character earlier.
    · obtain ⟨rfl, rfl, tail, rfl⟩ := hcut
      obtain ⟨comment, rfl⟩ := hslash tail rfl
      simp [codeFrom, hx.symm]
    · rw [List.cons_append, codeFrom.eq_7 _ _ hopen hcomment hquoted, codeFrom.eq_7 _ _ hopen,
        List.count_cons, List.count_cons, ih hend (notMem_rtake_of_cons hquote)]
      · omega
      · rintro tail rfl hrest
        cases line with
        | nil => exact hcut ⟨rfl, rfl, tail, hrest⟩
        | cons d line =>
          obtain ⟨rfl, -⟩ := List.cons.inj hrest
          exact hcomment line rfl rfl
      · rintro d tail rfl hrest
        -- A quoted character would begin among the last two characters of the first part.
        rcases line with _ | ⟨d', _ | ⟨d'', line⟩⟩
        · exact hquote (by simp [List.rtake])
        · exact hquote (by simp [List.rtake])
        · obtain ⟨-, htail⟩ := List.cons.inj hrest
          obtain ⟨rfl, -⟩ := List.cons.inj htail
          exact hquoted d' line rfl rfl

/-- The braces of a line that is cut so are those of both parts. -/
theorem braces_append {line rest : Line} (hend : scanEnd line = .code)
    (hquote : '\'' ∉ line.rtake 2)
    (hslash : ∀ tail, rest = '/' :: tail → ∃ comment, tail = '/' :: comment) :
    braceDelta (line ++ rest) = braceDelta line + braceDelta rest ∧
      closingBraces (line ++ rest) = closingBraces line + closingBraces rest := by
  have hcount : ∀ x, x ≠ '/' → (codeChars (line ++ rest)).count x =
      (codeChars line).count x + (codeChars rest).count x :=
    fun x hx => count_codeFrom_append hx hend hquote hslash
  have hopening := hcount '\x7b' (by decide)
  have hclosing := hcount '\x7d' (by decide)
  constructor
  · rw [braceDelta, braceDelta, braceDelta, hopening, hclosing]
    push_cast
    ring
  · rw [closingBraces, closingBraces, closingBraces, hclosing]

/-! ## Literals and comments -/

/-- Inside of a text nothing is code up to the double quote that ends it. -/
theorem codeFrom_true_append_of_isTextBody {body : Line} (h : IsTextBody body) (rest : Line) :
    codeFrom true (body ++ '"' :: rest) = codeFrom false rest := by
  induction h with
  | nil => rw [List.nil_append, codeFrom_true_cons (by decide)]; rfl
  | @plain c body hquote hback _ ih =>
    rw [List.cons_append, codeFrom_true_cons hback, bne_iff_ne.2 hquote, ih]
  | escaped c _ ih => rw [List.cons_append, List.cons_append, codeFrom, ih]

/-- A literal in front of a line holds no code. -/
theorem IsLiteral.codeFrom_append {literal : Line} (h : IsLiteral literal) (rest : Line) :
    codeFrom false (literal ++ rest) = codeFrom false rest := by
  cases h with
  | text hbody =>
    rw [List.cons_append, List.append_assoc, List.singleton_append, codeFrom,
      codeFrom_true_append_of_isTextBody hbody]
  | quoted c => simp [codeFrom]

/-- A literal does not begin with a slash. -/
theorem IsLiteral.append_ne_slash_cons {literal : Line} (h : IsLiteral literal) (rest tail : Line) :
    literal ++ rest ≠ '/' :: tail := by
  cases h <;> simp

/-- Behind a line whose scan ends in code, and which has no single quote among its last two
characters, a literal adds no brace, and what follows it is counted for itself; a comment adds
nothing at all. -/
theorem braces_append_of_scanEnd {line : Line} (hend : scanEnd line = .code)
    (hquote : '\'' ∉ line.rtake 2) (rest : Line) :
    (∀ literal, IsLiteral literal →
      braceDelta (line ++ literal ++ rest) = braceDelta line + braceDelta rest ∧
        closingBraces (line ++ literal ++ rest) = closingBraces line + closingBraces rest) ∧
    braceDelta (line ++ '/' :: '/' :: rest) = braceDelta line ∧
    closingBraces (line ++ '/' :: '/' :: rest) = closingBraces line := by
  constructor
  -- A literal begins with a quote and hides what is in it, so the scan behind it starts in code
  -- again.
  · intro literal hliteral
    have hcode : codeChars (literal ++ rest) = codeChars rest := hliteral.codeFrom_append rest
    have hslash : ∀ tail, literal ++ rest = '/' :: tail → ∃ comment, tail = '/' :: comment :=
      fun tail htail => absurd htail (hliteral.append_ne_slash_cons rest tail)
    obtain ⟨hdelta, hclosing⟩ := braces_append hend hquote hslash
    rw [List.append_assoc, hdelta, hclosing]
    simp only [braceDelta, closingBraces, hcode]
    trivial
  · have hslash : ∀ tail, '/' :: '/' :: rest = '/' :: tail → ∃ comment, tail = '/' :: comment :=
      fun tail htail => ⟨rest, (List.cons.inj htail).2.symm⟩
    obtain ⟨hdelta, hclosing⟩ := braces_append hend hquote hslash
    rw [hdelta, hclosing]
    simp [braceDelta, closingBraces, codeChars_comment]

/-- Behind a condition with a brace in a text and one in quotes stands a text with an escaped quote,
slashes and braces. -/
theorem braces_append_of_scanEnd_condition :
    let line := "if t == \"\\\"\x7b\" || c == '\x7d' \x7b ".toList
    let body := "\\\"\x7d // \x7b".toList
    let rest := " \x7d // \x7d".toList
    scanEnd line = .code ∧ '\'' ∉ line.rtake 2 ∧ IsLiteral ('"' :: (body ++ ['"'])) ∧
      braceDelta (line ++ ('"' :: (body ++ ['"'])) ++ rest) = 0 ∧
      closingBraces (line ++ '/' :: '/' :: rest) = 0 := by
  intro line body rest
  have hend : scanEnd line = .code := by decide
  have hquote : '\'' ∉ line.rtake 2 := by decide
  have hbody : IsTextBody body := by
    refine .escaped '"' ?_
    repeat refine .plain (by decide) (by decide) ?_
    exact .nil
  obtain ⟨hliteral, -, hcomment⟩ := braces_append_of_scanEnd hend hquote rest
  refine ⟨hend, hquote, .text hbody, ?_, ?_⟩
  · rw [(hliteral _ (.text hbody)).1]
    decide
  · rw [hcomment]
    decide

/-- A single quote among the last two characters may make a quoted character with the quote of a
literal, and then the brace of the literal counts. -/
example : scanEnd "'x".toList = .code ∧ braceDelta ("'x".toList ++ "'\x7b'".toList) = 1 := by decide

end PackageLint.Source
