/-!
# Each element once

A list without its repetitions: every element stays at its first place.

## Main results

* `mem_distinct`: no element is lost and none is added;
* `distinct_append_singleton`: a further element is kept unless it is there already;
* `distinct_map`: a map that tells all elements apart keeps them in their places;
* `filter_distinct`: what is left out of a list is left out of its elements;
* `nodup_distinct`: nothing occurs twice.
-/

namespace PackageLint

/-- The elements of a list, each once, in the order of their first occurrences. -/
def distinct {α : Type} [DecidableEq α] : List α → List α
  | [] => []
  | a :: rest => a :: (distinct rest).filter (· ≠ a)

variable {α : Type} [DecidableEq α]

@[simp] theorem distinct_nil : distinct ([] : List α) = [] := rfl

@[simp] theorem mem_distinct {a : α} {xs : List α} : a ∈ distinct xs ↔ a ∈ xs := by
  induction xs with
  | nil => simp
  | cons b rest ih => by_cases h : a = b <;> simp [distinct, h, ih]

/-- A further element is kept at the end unless it is there already. -/
theorem distinct_append_singleton (xs : List α) (a : α) :
    distinct (xs ++ [a]) = if a ∈ xs then distinct xs else distinct xs ++ [a] := by
  induction xs with
  | nil => rfl
  | cons b rest ih =>
    rw [List.cons_append, distinct, distinct, ih]
    by_cases hrest : a ∈ rest
    · rw [if_pos hrest, if_pos (List.mem_cons_of_mem b hrest)]
    -- What is added behind the rest is taken away again if it is the first element.
    · rw [if_neg hrest, List.filter_append]
      by_cases hb : a = b <;> simp [hb, hrest]

/-- What is there already is not added again. -/
theorem distinct_append_of_subset {xs ys : List α} (h : ∀ a ∈ ys, a ∈ xs) :
    distinct (xs ++ ys) = distinct xs := by
  induction ys generalizing xs with
  | nil => rw [List.append_nil]
  | cons a ys ih =>
    have ha : a ∈ xs := h a List.mem_cons_self
    rw [List.append_cons, ih fun b hb => List.mem_append_left _ (h b (List.mem_cons_of_mem a hb)),
      distinct_append_singleton, if_pos ha]

/-- A map that tells all elements apart keeps them in their places. -/
theorem distinct_map {β : Type} [DecidableEq β] {f : α → β} (h : ∀ a b, f a = f b → a = b)
    (xs : List α) : distinct (xs.map f) = (distinct xs).map f := by
  induction xs with
  | nil => rfl
  | cons a rest ih =>
    rw [List.map_cons, distinct, distinct, List.map_cons, ih, List.filter_map]
    congr 2
    refine List.filter_congr fun b _ => ?_
    -- The images differ exactly where the elements do.
    by_cases hba : b = a
    · simp [hba]
    · have hne : f b ≠ f a := fun heq => hba (h b a heq)
      simp [hba, hne]

/-- What is left out of a list is left out of its elements. -/
theorem filter_distinct (p : α → Bool) (xs : List α) :
    (distinct xs).filter p = distinct (xs.filter p) := by
  induction xs with
  | nil => rfl
  | cons a rest ih =>
    by_cases ha : p a = true
    · rw [distinct, List.filter_cons_of_pos ha, List.filter_cons_of_pos ha, distinct, ← ih,
        List.filter_filter, List.filter_filter]
      simp only [Bool.and_comm]
    -- An element that is left out takes nothing else with it.
    · rw [distinct, List.filter_cons_of_neg ha, List.filter_cons_of_neg ha, ← ih,
        List.filter_filter]
      refine List.filter_congr fun b _ => ?_
      by_cases hb : b = a <;> simp_all

/-- Nothing occurs twice. -/
theorem nodup_distinct (xs : List α) : (distinct xs).Nodup := by
  induction xs with
  | nil => simp [List.Nodup]
  | cons a rest ih =>
    refine List.nodup_cons.2 ⟨by simp, ?_⟩
    exact List.Pairwise.filter _ ih

end PackageLint
