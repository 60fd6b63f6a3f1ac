import PackageLint.Source.Code

/-!
# Blocks in braces

A block is taken from a list of lines by adding up the brace deltas: once the sum has been
positive, the block ends with the first line that brings it back to zero or below. A block that
never closes goes on to the last line.

## Main results

* `block_isPrefix`: a block is made of the first lines of what it is taken from.
-/

namespace PackageLint.Source

/-- The lines of a block, given the sum of the brace deltas before them and whether that sum has
been positive. -/
def blockFrom (balance : Int) (opened : Bool) : List Line → List Line
  | [] => []
  | line :: rest =>
    let balance := balance + braceDelta line
    let opened := opened || 0 < balance
    if opened && balance ≤ 0 then [line] else line :: blockFrom balance opened rest

/-- The block that begins with the first of the lines. -/
def block (lines : List Line) : List Line := blockFrom 0 false lines

/-- The lines from a start on; a negative start counts from the end. -/
def linesFrom {α : Type} (start : Int) (lines : List α) : List α :=
  if start < 0 then lines.drop (lines.length + start).toNat else lines.drop start.toNat

/-- The block that begins at a line. -/
def blockAt (lines : List Line) (start : Int) : List Line := block (linesFrom start lines)

@[simp] theorem block_nil : block [] = [] := rfl

/-- A block is made of the first lines. -/
theorem blockFrom_isPrefix (balance : Int) (opened : Bool) (lines : List Line) :
    blockFrom balance opened lines <+: lines := by
  induction lines generalizing balance opened with
  | nil => simp [blockFrom]
  | cons line rest ih =>
    simp only [blockFrom]
    split
    · exact ⟨rest, rfl⟩
    · exact (List.prefix_cons_inj _).2 (ih _ _)

/-- A block is a part of the lines that it is taken from, beginning with the first one. -/
theorem block_isPrefix (lines : List Line) : block lines <+: lines :=
  blockFrom_isPrefix 0 false lines

end PackageLint.Source
