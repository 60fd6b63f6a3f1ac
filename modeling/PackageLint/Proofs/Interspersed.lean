/-!
# Lines among other lines

Many outputs hold what matters on lines of their own, and any other lines before, between and
after them. Whoever reads such an output line by line passes over the others.

## Main definitions

* `Interspersed`: lines show elements one after the other, among lines that show none.

## Main results

* `Interspersed.filterMap_eq`: what is read from the lines is what the elements say;
* `Interspersed.exists_shown`: a line that is none of the others shows the element that is next.
-/

namespace PackageLint

variable {α β γ : Type}

/-- The lines show the elements one after the other; the lines among them show nothing. -/
inductive Interspersed (shows : α → β → Prop) (isOther : β → Prop) : List α → List β → Prop
  | nil : Interspersed shows isOther [] []
  | shown {a : α} {b : β} {as : List α} {bs : List β} (h : shows a b)
      (rest : Interspersed shows isOther as bs) : Interspersed shows isOther (a :: as) (b :: bs)
  | other {b : β} {as : List α} {bs : List β} (h : isOther b)
      (rest : Interspersed shows isOther as bs) : Interspersed shows isOther as (b :: bs)

namespace Interspersed

variable {shows : α → β → Prop} {isOther : β → Prop}

/-- A reader that takes each element from its line and nothing from the others takes them all. -/
theorem filterMap_eq {as : List α} {bs : List β} (h : Interspersed shows isOther as bs)
    {read : β → Option γ} {said : α → γ} (hshown : ∀ a b, shows a b → read b = some (said a))
    (hother : ∀ b, isOther b → read b = none) : bs.filterMap read = as.map said := by
  induction h with
  | nil => rfl
  | shown hline _ ih => rw [List.filterMap_cons, hshown _ _ hline, ih, List.map_cons]
  | other hline _ ih => rw [List.filterMap_cons, hother _ hline, ih]

/-- A line that is none of the others shows the element that comes next. -/
theorem exists_shown {as : List α} {front back : List β} {b : β}
    (h : Interspersed shows isOther as (front ++ b :: back)) (hb : ¬ isOther b) :
    ∃ before a after, as = before ++ a :: after ∧ Interspersed shows isOther before front ∧
      shows a b := by
  induction front generalizing as with
  | nil =>
    -- The first line either shows the first element or is passed over.
    cases h with
    | shown hline _ => exact ⟨[], _, _, rfl, .nil, hline⟩
    | other hline _ => exact absurd hline hb
  | cons first front ih =>
    cases h with
    | shown hline hrest =>
      obtain ⟨before, a, after, rfl, hbefore, hshows⟩ := ih hrest
      exact ⟨_ :: before, a, after, rfl, .shown hline hbefore, hshows⟩
    | other hline hrest =>
      obtain ⟨before, a, after, heq, hbefore, hshows⟩ := ih hrest
      exact ⟨before, a, after, heq, .other hline hbefore, hshows⟩

/-- One more line shows one more element. -/
theorem concat {as : List α} {bs : List β} {a : α} {b : β} (h : Interspersed shows isOther as bs)
    (hab : shows a b) : Interspersed shows isOther (as ++ [a]) (bs ++ [b]) := by
  induction h with
  | nil => exact .shown hab .nil
  | shown hline _ ih => exact .shown hline ih
  | other hline _ ih => exact .other hline ih

end Interspersed

end PackageLint
