import Mathlib
import PackageLint.Source.Block

/-!
# Where a block ends

A block ends with the first line that brings the sum of the brace deltas back to zero or below,
once that sum has been positive. Here this is said of the lines as a whole: some first lines of
them are closed, and the block is the shortest of these, or else all lines.

## Main definitions

* `netDelta`: the sum of the brace deltas of some lines;
* `rises`: the sum has been positive after some of the lines;
* `isClosed`: it has been, and is not any more;
* `ClosesAfter`: the same, said of a number of lines.

## Main results

* `block_append_of_forall_not_isClosed`: a block goes on as long as nothing is closed;
* `block_eq_of_isClosed`: it ends with the first line that closes it;
* `block_eq_self`: without such a line it goes on to the last line;
* `block_append_of_isClosed`: what is closed holds the block, whatever follows;
* `block_append_of_not_rises`: what never rises is taken, and the block begins behind it;
* `blockFrom_map`: only the brace deltas decide where a block ends;
* `blockAt_eq_take`: the block at a line by the least number of lines that closes it.
-/

namespace PackageLint.Source

/-- The sum of the brace deltas of some lines. -/
def netDelta (lines : List Line) : Int := (lines.map braceDelta).sum

/-- The sum of the brace deltas is positive after some of the lines. -/
def rises (lines : List Line) : Bool := lines.inits.any fun part => 0 < netDelta part

/-- The sum of the brace deltas was positive and is so no longer. -/
def isClosed (lines : List Line) : Bool := rises lines && netDelta lines ≤ 0

@[simp] theorem netDelta_nil : netDelta [] = 0 := rfl

@[simp] theorem netDelta_cons (line : Line) (lines : List Line) :
    netDelta (line :: lines) = braceDelta line + netDelta lines := by
  simp [netDelta]

/-- The deltas of two runs of lines add up. -/
@[simp] theorem netDelta_append (xs ys : List Line) :
    netDelta (xs ++ ys) = netDelta xs + netDelta ys := by
  simp [netDelta]

@[simp] theorem rises_nil : rises [] = false := rfl

/-- The sum rises if it is positive after some first part. -/
theorem rises_iff {lines : List Line} :
    rises lines = true ↔ ∃ part, part <+: lines ∧ 0 < netDelta part := by
  simp [rises, List.any_eq_true, List.mem_inits]

/-- The sum after one more line decides whether it has been positive. -/
theorem rises_append_singleton (lines : List Line) (line : Line) :
    rises (lines ++ [line]) = (rises lines || decide (0 < netDelta (lines ++ [line]))) := by
  simp [rises, List.inits_append]

/-- What has been positive after some lines has been so after more of them. -/
theorem rises_of_isPrefix {xs ys : List Line} (h : xs <+: ys) (hrises : rises xs = true) :
    rises ys = true := by
  obtain ⟨part, hpart, hpositive⟩ := rises_iff.1 hrises
  exact rises_iff.2 ⟨part, hpart.trans h, hpositive⟩

/-- A line that does not close what was taken before is taken, and the block goes on. -/
theorem blockFrom_cons_of_not_isClosed {done : List Line} {line : Line} (rest : List Line)
    (h : isClosed (done ++ [line]) = false) :
    blockFrom (netDelta done) (rises done) (line :: rest) =
      line :: blockFrom (netDelta (done ++ [line])) (rises (done ++ [line])) rest := by
  have hsum : netDelta done + braceDelta line = netDelta (done ++ [line]) := by simp
  rw [isClosed] at h
  rw [blockFrom]
  simp only [hsum, ← rises_append_singleton, h]
  rfl

/-- A line that closes what was taken before is the last one of the block. -/
theorem blockFrom_cons_of_isClosed {done : List Line} {line : Line} (rest : List Line)
    (h : isClosed (done ++ [line]) = true) :
    blockFrom (netDelta done) (rises done) (line :: rest) = [line] := by
  have hsum : netDelta done + braceDelta line = netDelta (done ++ [line]) := by simp
  rw [isClosed] at h
  rw [blockFrom]
  simp only [hsum, ← rises_append_singleton, h]
  rfl

/-- Lines are taken as long as none of them closes the block. -/
theorem blockFrom_append_of_forall_not_isClosed {done xs : List Line} (ys : List Line)
    (h : ∀ part, part <+: xs → isClosed (done ++ part) = false) :
    blockFrom (netDelta done) (rises done) (xs ++ ys) =
      xs ++ blockFrom (netDelta (done ++ xs)) (rises (done ++ xs)) ys := by
  induction xs generalizing done with
  | nil => simp
  | cons line xs ih =>
    rw [List.cons_append, blockFrom_cons_of_not_isClosed _ (h [line] (by simp)), ih]
    · simp
    · intro part hpart
      simpa using h (line :: part) ((List.prefix_cons_inj line).2 hpart)

/-- A block goes on as long as nothing is closed. -/
theorem block_append_of_forall_not_isClosed {xs : List Line} (ys : List Line)
    (h : ∀ part, part <+: xs → isClosed part = false) :
    block (xs ++ ys) = xs ++ blockFrom (netDelta xs) (rises xs) ys :=
  @blockFrom_append_of_forall_not_isClosed [] xs ys h

/-- Lines among which nothing is closed are a block. -/
theorem block_eq_self {xs : List Line} (h : ∀ part, part <+: xs → isClosed part = false) :
    block xs = xs := by
  have hblock := block_append_of_forall_not_isClosed [] h
  simpa [blockFrom] using hblock

/-- A block ends with the first line that closes it. -/
theorem block_eq_of_isClosed {xs : List Line} {line : Line} (ys : List Line)
    (h : ∀ part, part <+: xs → isClosed part = false) (hclosed : isClosed (xs ++ [line]) = true) :
    block (xs ++ line :: ys) = xs ++ [line] := by
  rw [block_append_of_forall_not_isClosed _ h, blockFrom_cons_of_isClosed _ hclosed]

/-- Where some first lines are closed there is a first line that closes them. -/
theorem exists_first_isClosed {lines : List Line}
    (h : ∃ part, part <+: lines ∧ isClosed part = true) :
    ∃ xs line ys, lines = xs ++ line :: ys ∧ (∀ part, part <+: xs → isClosed part = false) ∧
      isClosed (xs ++ [line]) = true := by
  induction lines using List.reverseRecOn with
  | nil =>
    obtain ⟨part, hpart, hclosed⟩ := h
    rw [List.prefix_nil.1 hpart] at hclosed
    cases hclosed
  | append_singleton xs line ih =>
    -- The last line closes first unless something before it is closed.
    by_cases hbefore : ∃ part, part <+: xs ∧ isClosed part = true
    · obtain ⟨first, closing, rest, rfl, hopen, hclosed⟩ := ih hbefore
      exact ⟨first, closing, rest ++ [line], by simp, hopen, hclosed⟩
    · have hopen : ∀ part, part <+: xs → isClosed part = false := by simpa using hbefore
      obtain ⟨part, hpart, hclosed⟩ := h
      rcases List.prefix_concat_iff.1 hpart with rfl | hpart
      · exact ⟨xs, line, [], rfl, hopen, hclosed⟩
      · simp [hopen part hpart] at hclosed

/-- What is closed holds the block, whatever follows. -/
theorem block_append_of_isClosed {xs : List Line} (ys : List Line) (h : isClosed xs = true) :
    block (xs ++ ys) = block xs := by
  obtain ⟨first, line, rest, rfl, hopen, hclosed⟩ :=
    exists_first_isClosed ⟨xs, List.prefix_refl xs, h⟩
  rw [block_eq_of_isClosed rest hopen hclosed, List.append_assoc, List.cons_append,
    block_eq_of_isClosed (rest ++ ys) hopen hclosed]

/-- Lines after which the sum has never been positive and is zero do not count for the block. -/
theorem block_append_of_not_rises {xs : List Line} (ys : List Line) (h : rises xs = false)
    (hsum : netDelta xs = 0) : block (xs ++ ys) = xs ++ block ys := by
  have hopen : ∀ part, part <+: xs → isClosed part = false := by
    intro part hpart
    rw [isClosed, Bool.and_eq_false_iff]
    exact .inl (Bool.eq_false_iff.2 fun hrises => by simp [rises_of_isPrefix hpart hrises] at h)
  rw [block_append_of_forall_not_isClosed ys hopen, hsum, h]
  rfl

/-- One more line behind all others is taken with the block or left out. -/
theorem blockFrom_append_singleton_or (balance : Int) (opened : Bool) (xs : List Line)
    (line : Line) :
    blockFrom balance opened (xs ++ [line]) = blockFrom balance opened xs ∨
      blockFrom balance opened (xs ++ [line]) = blockFrom balance opened xs ++ [line] := by
  induction xs generalizing balance opened with
  | nil => exact .inr (by simp [blockFrom])
  | cons first xs ih =>
    simp only [List.cons_append, blockFrom]
    split
    · exact .inl rfl
    · simpa using ih _ _

/-- Lines with the same brace deltas are cut at the same place. -/
theorem blockFrom_map {f : Line → Line} {lines : List Line}
    (h : ∀ line ∈ lines, braceDelta (f line) = braceDelta line) (balance : Int) (opened : Bool) :
    blockFrom balance opened (lines.map f) = (blockFrom balance opened lines).map f := by
  induction lines generalizing balance opened with
  | nil => rfl
  | cons line lines ih =>
    rw [List.forall_mem_cons] at h
    simp only [List.map_cons, blockFrom, h.1, ih h.2]
    split <;> rfl

/-! ## Blocks by the number of their lines -/

/-- After so many of the lines the sum of the brace deltas is zero or below, and after fewer of them
it was positive. -/
def ClosesAfter (lines : List Line) (count : Nat) : Prop :=
  netDelta (lines.take count) ≤ 0 ∧ ∃ fewer < count, 0 < netDelta (lines.take fewer)

instance (lines : List Line) (count : Nat) : Decidable (ClosesAfter lines count) :=
  inferInstanceAs (Decidable (_ ∧ _))

/-- That a run of lines is closed can be told from the numbers of lines after which the sum is what
it is. -/
theorem isClosed_take_iff {lines : List Line} {count : Nat} :
    isClosed (lines.take count) = true ↔ ClosesAfter lines count := by
  rw [isClosed, Bool.and_eq_true, decide_eq_true_eq, rises_iff, and_comm, ClosesAfter]
  refine and_congr_right fun hsum => ⟨?_, ?_⟩
  · rintro ⟨part, hpart, hpositive⟩
    obtain ⟨hbegins, hle⟩ := List.prefix_take_iff.1 hpart
    have htake : lines.take part.length = part := (List.prefix_iff_eq_take.1 hbegins).symm
    -- The sum is positive after the part and not after all of the lines taken, so it is shorter.
    have hne : part.length ≠ count := by
      rintro rfl
      rw [htake] at hsum
      omega
    exact ⟨part.length, by omega, by rwa [htake]⟩
  · rintro ⟨fewer, hfewer, hpositive⟩
    exact ⟨lines.take fewer, List.take_prefix_take_left (by omega), hpositive⟩

/-- Lines that close a block after some of them do so after a least number of them, and this many
are the block. -/
theorem exists_isLeast_closesAfter {lines : List Line} (h : ∃ count, ClosesAfter lines count) :
    ∃ count, IsLeast {count | ClosesAfter lines count} count ∧ block lines = lines.take count := by
  obtain ⟨count, hcount⟩ := h
  obtain ⟨xs, line, ys, rfl, hopen, hclosed⟩ :=
    exists_first_isClosed ⟨lines.take count, List.take_prefix _ _, isClosed_take_iff.2 hcount⟩
  have htake : (xs ++ line :: ys).take (xs.length + 1) = xs ++ [line] := by
    simp [List.take_append]
  refine ⟨xs.length + 1, ⟨?_, fun fewer hfewer => ?_⟩, ?_⟩
  · exact isClosed_take_iff.1 (by rw [htake, hclosed])
  · -- Fewer lines are among those that close nothing.
    by_contra hlt
    have hbegins : (xs ++ line :: ys).take fewer <+: xs := by
      rw [List.take_append_of_le_length (by omega)]
      exact List.take_prefix _ _
    have hcloses := isClosed_take_iff.2 hfewer
    rw [hopen _ hbegins] at hcloses
    cases hcloses
  · rw [htake, block_eq_of_isClosed ys hopen hclosed]

/-- A block is made of the least number of lines that closes it. -/
theorem block_eq_take {lines : List Line} {count : Nat}
    (h : IsLeast {count | ClosesAfter lines count} count) : block lines = lines.take count := by
  obtain ⟨least, hleast, hblock⟩ := exists_isLeast_closesAfter ⟨count, h.1⟩
  rw [hblock, hleast.unique h]

/-- Lines that close nothing are a block. -/
theorem block_eq_self_of_not_closesAfter {lines : List Line}
    (h : ∀ count, ¬ ClosesAfter lines count) : block lines = lines := by
  refine block_eq_self fun part hpart => ?_
  rw [List.prefix_iff_eq_take.1 hpart, Bool.eq_false_iff, Ne, isClosed_take_iff]
  exact h _

/-- What stands behind lines that close a block does not matter for it. -/
theorem block_take_append {lines : List Line} {count : Nat} (h : ClosesAfter lines count)
    (later : List Line) : block (lines.take count ++ later) = block lines := by
  have hclosed := isClosed_take_iff.2 h
  rw [block_append_of_isClosed later hclosed]
  conv_rhs => rw [← List.take_append_drop count lines, block_append_of_isClosed _ hclosed]

/-- The block of a block is the block itself. -/
@[simp] theorem block_block (lines : List Line) : block (block lines) = block lines := by
  by_cases h : ∃ count, ClosesAfter lines count
  · obtain ⟨count, hleast, hblock⟩ := exists_isLeast_closesAfter h
    have hagain := block_take_append hleast.1 []
    rwa [List.append_nil, ← hblock] at hagain
  · have hself := block_eq_self_of_not_closesAfter (not_exists.1 h)
    rw [hself, hself]

/-- Counted from the front, a block begins with the line of its number. -/
theorem blockAt_natCast (lines : List Line) (start : Nat) :
    blockAt lines start = block (lines.drop start) := by
  rw [blockAt, linesFrom, if_neg (by omega), Int.toNat_natCast]

/-- The block at a line is made of the least number of lines from there on that closes it, or of all
of them where none does. It is a first part of these lines, its own block is itself, and once it is
closed the lines behind it may change. -/
theorem blockAt_eq_take (lines : List Line) (start : Nat) :
    (∀ count, IsLeast {count | ClosesAfter (lines.drop start) count} count →
      blockAt lines start = (lines.drop start).take count) ∧
    ((∀ count, ¬ ClosesAfter (lines.drop start) count) →
      blockAt lines start = lines.drop start) ∧
    blockAt lines start <+: lines.drop start ∧
    blockAt (blockAt lines start) 0 = blockAt lines start ∧
    ∀ count, ClosesAfter (lines.drop start) count →
      ∀ later, blockAt (lines.take (start + count) ++ later) start = blockAt lines start := by
  simp only [blockAt_natCast]
  refine ⟨fun count => block_eq_take, block_eq_self_of_not_closesAfter, block_isPrefix _, ?_, ?_⟩
  · exact (blockAt_natCast _ 0).trans (block_block _)
  · intro count hcloses later
    -- Only a line that is there can open what is closed.
    have hstart : start ≤ lines.length := by
      by_contra hlt
      obtain ⟨-, fewer, -, hpositive⟩ := hcloses
      simp [List.drop_eq_nil_of_le (Nat.le_of_not_le hlt)] at hpositive
    have hdrop : (lines.take (start + count) ++ later).drop start =
        (lines.drop start).take count ++ later := by
      rw [List.drop_append_of_le_length (by simp [hstart]), List.drop_take, Nat.add_sub_cancel_left]
    rw [hdrop, block_take_append hcloses]

/-- A brace that closes something above leaves the sum below zero, so the block ends one closing
brace early. -/
theorem blockAt_eq_take_belowBrace :
    let lines : List Line := ["@Reducer".toList, "\x7d".toList, "Reduce \x7b state in".toList,
      "  run \x7b send in".toList, "  \x7d".toList, "\x7d".toList, "AFeature()".toList]
    IsLeast {count | ClosesAfter (lines.drop 1) count} 4 ∧
      blockAt lines 1 = (lines.drop 1).take 4 := by
  intro lines
  have hcloses : ClosesAfter (lines.drop 1) 4 := by decide +kernel
  have hfewer : ∀ count < 4, ¬ ClosesAfter (lines.drop 1) count := by decide +kernel
  have hleast : IsLeast {count | ClosesAfter (lines.drop 1) count} 4 :=
    ⟨hcloses, fun count hcount => not_lt.1 fun hlt => hfewer count hlt hcount⟩
  exact ⟨hleast, (blockAt_eq_take lines 1).1 4 hleast⟩

end PackageLint.Source
