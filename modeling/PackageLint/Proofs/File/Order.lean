import Mathlib

/-!
# The order of a listing

A listing of files goes from each directory to its subdirectories: the files of a directory come
first, by name, and then what is below its subdirectories, by their names. Paths are lists of names
here, the names on the way down and the name of the file.

## Main definitions

* `Precedes`: a path stands before another one in a listing.

## Main results

* `Precedes.asymm`: no two paths stand before each other;
* `precedes_append_append_iff`: the order below a directory does not depend on where it stands;
* `sublist_of_subset_of_pairwise`: listings of some files leave out the others and keep the order.
-/

namespace PackageLint.Sources

/-- A path stands before another one in a listing. -/
def Precedes : List String → List String → Prop
  | [a], [b] => a < b
  | [_], _ :: _ :: _ => True
  | a :: c :: p, b :: d :: q => a < b ∨ a = b ∧ Precedes (c :: p) (d :: q)
  | _, _ => False

/-- No two paths stand before each other. -/
theorem Precedes.asymm {p q : List String} (h : Precedes p q) : ¬ Precedes q p := by
  fun_induction Precedes p q with
  | case1 a b => exact lt_asymm h
  | case2 => simp [Precedes]
  | case3 a c p b d q ih =>
    rw [Precedes]
    rintro (hba | ⟨rfl, hqp⟩)
    · rcases h with hab | ⟨rfl, -⟩
      · exact lt_asymm hab hba
      · exact lt_irrefl _ hba
    · rcases h with hab | ⟨-, hpq⟩
      · exact lt_irrefl _ hab
      · exact ih hpq hqp
  | case4 => cases h

instance : Std.Antisymm Precedes := ⟨fun _ _ h h' => absurd h' h.asymm⟩

instance : Std.Irrefl Precedes := ⟨fun _ h => h.asymm h⟩

/-- Below the same directory paths stand as they do without it. -/
theorem precedes_append_append_iff (front : List String) {p q : List String} (hp : p ≠ [])
    (hq : q ≠ []) : Precedes (front ++ p) (front ++ q) ↔ Precedes p q := by
  induction front with
  | nil => rfl
  | cons a front ih =>
    obtain ⟨c, p', hp'⟩ := List.exists_cons_of_ne_nil (List.append_ne_nil_of_right_ne_nil front hp)
    obtain ⟨d, q', hq'⟩ := List.exists_cons_of_ne_nil (List.append_ne_nil_of_right_ne_nil front hq)
    rw [List.cons_append, List.cons_append, ← ih, hp', hq', Precedes]
    simp

/-- The files of a directory stand by name. -/
theorem precedes_append_singleton (front : List String) {a b : String} (h : a < b) :
    Precedes (front ++ [a]) (front ++ [b]) :=
  (precedes_append_append_iff front (by simp) (by simp)).2 h

/-- A file of a directory stands before what is below a subdirectory. -/
theorem precedes_append_singleton_append_cons (front : List String) (a b : String)
    {q : List String} (hq : q ≠ []) : Precedes (front ++ [a]) (front ++ b :: q) := by
  obtain ⟨d, q', rfl⟩ := List.exists_cons_of_ne_nil hq
  refine (precedes_append_append_iff front (by simp) (by simp)).2 ?_
  trivial

/-- What is below the subdirectories of a directory stands by their names. -/
theorem precedes_append_cons_append_cons (front : List String) {a b : String} (h : a < b)
    {p q : List String} (hp : p ≠ []) (hq : q ≠ []) :
    Precedes (front ++ a :: p) (front ++ b :: q) := by
  obtain ⟨c, p', rfl⟩ := List.exists_cons_of_ne_nil hp
  obtain ⟨d, q', rfl⟩ := List.exists_cons_of_ne_nil hq
  refine (precedes_append_append_iff front (by simp) (by simp)).2 ?_
  exact .inl h

/-- A listing of some of the files of another one leaves out the others and keeps the order. -/
theorem sublist_of_subset_of_pairwise {xs ys : List (List String)} (hsubset : xs ⊆ ys)
    (hxs : xs.Pairwise Precedes) (hys : ys.Pairwise Precedes) : xs.Sublist ys :=
  List.sublist_of_subperm_of_pairwise (List.subperm_of_subset hxs.nodup hsubset) hxs hys

end PackageLint.Sources
