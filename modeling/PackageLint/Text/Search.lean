/-!
# Finding one text in another

Plain occurrence, the number of occurrences that do not overlap, and cutting at a separator. All
of them recurse on the text that is searched.

## Main results

* `occursIn_iff_isInfix`: what stands in a text is a part of it;
* `cutAtLast_eq_some_iff`: the last cut puts the text together again, and no separator stands
  behind it.
-/

namespace PackageLint.Text

/-- `needle` stands somewhere in the text. -/
def occursIn (needle : List Char) : List Char → Bool
  | [] => needle.isEmpty
  | c :: rest => needle.isPrefixOf (c :: rest) || occursIn needle rest

/-- `needle` stands somewhere in the text, for strings. -/
def contains (text needle : String) : Bool := occursIn needle.toList text.toList

/-- How often `needle` stands in the text when the next search starts behind the last find; the
first argument counts the characters of a find that are still to be passed. -/
def countFrom (needle : List Char) : Nat → List Char → Nat
  | _, [] => if needle.isEmpty then 1 else 0
  | skip + 1, _ :: rest => countFrom needle skip rest
  | 0, c :: rest =>
    if needle.isPrefixOf (c :: rest) then 1 + countFrom needle (needle.length - 1) rest
    else countFrom needle 0 rest

/-- The number of occurrences of `needle` that do not overlap, found from the left. -/
def countOf (needle text : List Char) : Nat := countFrom needle 0 text

/-- One of the texts stands at the start of `cs`. -/
def startsWithAny (starts : List (List Char)) (cs : List Char) : Bool :=
  starts.any (·.isPrefixOf cs)

/-- The text before and after the last `sep`, or `none` where there is no `sep`. -/
def cutAtLast (sep : Char) : List Char → Option (List Char × List Char)
  | [] => none
  | c :: rest =>
    match cutAtLast sep rest with
    | some (before, after) => some (c :: before, after)
    | none => if c = sep then some ([], rest) else none

/-- The pieces of a text between the separators. -/
def splitAt (sep : Char) : List Char → List (List Char)
  | [] => [[]]
  | c :: rest =>
    if c = sep then [] :: splitAt sep rest
    else match splitAt sep rest with
      | [] => [[c]]
      | piece :: others => (c :: piece) :: others

/-- Pieces written one after the other with a separator between them. -/
def joinWith (sep : String) (pieces : List String) : String := sep.intercalate pieces

/-- A text stands somewhere in another one if it is a part of it. -/
theorem occursIn_iff_isInfix {needle text : List Char} :
    occursIn needle text = true ↔ needle <:+: text := by
  induction text with
  | nil => simp [occursIn]
  | cons c rest ih =>
    rw [occursIn, Bool.or_eq_true, List.isPrefixOf_iff_prefix, ih, List.infix_cons_iff]

/-- There is no cut where there is no separator. -/
theorem cutAtLast_eq_none_iff {sep : Char} {cs : List Char} :
    cutAtLast sep cs = none ↔ sep ∉ cs := by
  induction cs with
  | nil => simp [cutAtLast]
  | cons c rest ih =>
    rw [cutAtLast, List.mem_cons, not_or, ← ih]
    cases cutAtLast sep rest with
    | some p => simp
    | none =>
      split
      · simp_all
      · simp_all [eq_comm]

/-- The last cut puts the text together again, and nothing behind it is a separator. -/
theorem cutAtLast_eq_some_iff {sep : Char} {cs before after : List Char} :
    cutAtLast sep cs = some (before, after) ↔ cs = before ++ sep :: after ∧ sep ∉ after := by
  constructor
  · intro h
    induction cs generalizing before after with
    | nil => cases h
    | cons c rest ih =>
      rw [cutAtLast] at h
      -- The cut is further behind if there is one, and here only if there is none.
      cases hrest : cutAtLast sep rest with
      | some p =>
        rw [hrest] at h
        obtain ⟨rfl, rfl⟩ := Prod.mk.inj (Option.some.inj h)
        obtain ⟨heq, hafter⟩ := ih hrest
        exact ⟨by rw [heq, List.cons_append], hafter⟩
      | none =>
        simp only [hrest] at h
        split at h
        · rename_i hc
          obtain ⟨rfl, rfl⟩ := Prod.mk.inj (Option.some.inj h)
          exact ⟨by rw [hc, List.nil_append], cutAtLast_eq_none_iff.1 hrest⟩
        · cases h
  · rintro ⟨rfl, hafter⟩
    induction before with
    | nil =>
      rw [List.nil_append, cutAtLast, cutAtLast_eq_none_iff.2 hafter]
      exact if_pos rfl
    | cons c before ih => rw [List.cons_append, cutAtLast, ih]

end PackageLint.Text
