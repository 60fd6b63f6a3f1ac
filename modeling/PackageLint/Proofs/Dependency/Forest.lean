import Mathlib.Data.List.Basic
import PackageLint.Proofs.Dependency.Sighting
import PackageLint.Text.Blank
import PackageLint.Text.Lines

/-!
# Forests of packages

What a graph says in either format: the packages below the root, each with an address and a
version. The same name may stand at any number of places, below itself too. The restrictions on
the parts of a package are those that let a line of a drawing be cut into these parts again.

A place in a forest is a package with the packages above it, the nearest one first.

## Main definitions

* `Forest`: packages with what stands below them;
* `Forest.places`: the places of a forest in preorder;
* `Place.isSimple`: no name repeats from a place up;
* `Forest.cut`: a forest without the places that repeat a name above them.

## Main results

* `Forest.places_cut`: cutting keeps the simple places;
* `Forest.any_not_isSimple`: there are others exactly if some package repeats a name above it.
-/

namespace PackageLint.Output

/-- A package whose parts can be told apart on a line of a drawing. -/
structure DrawablePackage where
  /-- The name. -/
  name : String
  /-- The address. -/
  url : String
  /-- The version. -/
  version : String
  name_ne_empty : name ≠ ""
  name_plain : ∀ c ∈ name.toList, c ≠ '<' ∧ Text.isBlank c = false
  url_ne_empty : url ≠ ""
  url_plain : ∀ c ∈ url.toList, c ≠ '>' ∧ Text.isLineEnd c = false
  version_ne_empty : version ≠ ""
  version_plain : ∀ c ∈ version.toList, c ≠ '@' ∧ c ≠ '>' ∧ Text.isLineEnd c = false

/-- The package as a reader reports it. -/
def DrawablePackage.dependency (package : DrawablePackage) : ExternalDependency where
  name := package.name
  url := some package.url
  version := some package.version

/-- Packages side by side: the first one, what stands below it, and the others. -/
inductive Forest
  | nil
  | cons (package : DrawablePackage) (below rest : Forest)

/-- A package in a forest, with those above it. -/
structure Place where
  /-- The package. -/
  package : DrawablePackage
  /-- The packages above it, the nearest one first. -/
  above : List DrawablePackage

/-- The names from a package up to the top of its forest. -/
def Place.names (place : Place) : List String := (place.package :: place.above).map (·.name)

/-- No name repeats from a package up to the top of its forest and on through the names `base`. -/
def Place.isSimple (base : List String) (place : Place) : Bool := (place.names ++ base).Nodup

/-- A package with a new name is simple where those above it are. -/
theorem Place.isSimple_mk_iff {base : List String} {package : DrawablePackage}
    {above : List DrawablePackage} (hnodup : (above.map (·.name) ++ base).Nodup) :
    Place.isSimple base ⟨package, above⟩ = true ↔ package.name ∉ above.map (·.name) ++ base :=
  decide_eq_true_iff.trans (List.nodup_cons.trans (and_iff_left hnodup))

namespace Forest

/-- The places of a forest that stands below some packages, in preorder. -/
def places (above : List DrawablePackage) : Forest → List Place
  | nil => []
  | cons package below rest =>
    ⟨package, above⟩ :: (places (package :: above) below ++ places above rest)

/-- The forest without the packages whose name is one of the given ones or stands above them, and
without what is below such packages. -/
def cut (names : List String) : Forest → Forest
  | nil => nil
  | cons package below rest =>
    if package.name ∈ names then cut names rest
    else cons package (cut (package.name :: names) below) (cut names rest)

/-- The names above a place end with those of the packages that its forest stands below. -/
theorem suffix_of_mem_places {above : List DrawablePackage} {forest : Forest} {place : Place}
    (h : place ∈ forest.places above) : above.map (·.name) <:+ place.above.map (·.name) := by
  induction forest generalizing above with
  | nil => cases h
  | cons package below rest ihBelow ihRest =>
    rcases List.mem_cons.1 h with rfl | h
    · exact List.suffix_refl _
    · rcases List.mem_append.1 h with h | h
      · exact (List.suffix_cons _ _).trans (ihBelow h)
      · exact ihRest h

variable {above : List DrawablePackage} {base : List String}

/-- A simple place stands below packages with distinct names. -/
theorem nodup_of_mem_places {forest : Forest} {place : Place} (h : place ∈ forest.places above)
    (hsimple : place.isSimple base = true) : (above.map (·.name) ++ base).Nodup := by
  have hsublist : (above.map (·.name)).Sublist place.names :=
    (suffix_of_mem_places h).sublist.trans (List.sublist_cons_self _ _)
  exact (decide_eq_true_iff.1 hsimple).sublist (hsublist.append_right base)

/-- Cutting keeps the simple places. -/
theorem places_cut (forest : Forest) (hnodup : (above.map (·.name) ++ base).Nodup) :
    (forest.cut (above.map (·.name) ++ base)).places above =
      (forest.places above).filter (·.isSimple base) := by
  induction forest generalizing above with
  | nil => rfl
  | cons package below rest ihBelow ihRest =>
    have hhere : Place.isSimple base ⟨package, above⟩ = true ↔
        package.name ∉ above.map (·.name) ++ base := Place.isSimple_mk_iff hnodup
    by_cases hmem : package.name ∈ above.map (·.name) ++ base
    · -- All places below repeat the name of this package.
      have hbelow : (below.places (package :: above)).filter (·.isSimple base) = [] := by
        refine List.filter_eq_nil_iff.2 fun place hplace hsimple => ?_
        exact (List.nodup_cons.1 (nodup_of_mem_places hplace hsimple)).1 hmem
      rw [cut, if_pos hmem, places, List.filter_cons_of_neg (fun h => hhere.1 h hmem),
        List.filter_append, hbelow, List.nil_append]
      exact ihRest hnodup
    · rw [cut, if_neg hmem, places, places, List.filter_cons_of_pos (hhere.2 hmem),
        List.filter_append, ← ihRest hnodup,
        ← @ihBelow (package :: above) (List.nodup_cons.2 ⟨hmem, hnodup⟩)]
      rfl

/-- Not all places are simple exactly if some package repeats a name above it. -/
theorem any_not_isSimple (forest : Forest) (hnodup : (above.map (·.name) ++ base).Nodup) :
    (forest.places above).any (fun place => !place.isSimple base) =
      (forest.places above).any fun place =>
        decide (place.package.name ∈ place.above.map (·.name) ++ base) := by
  induction forest generalizing above with
  | nil => rfl
  | cons package below rest ihBelow ihRest =>
    rw [places, List.any_cons, List.any_cons, List.any_append, List.any_append, ihRest hnodup]
    by_cases hmem : package.name ∈ above.map (·.name) ++ base
    · have hhere : Place.isSimple base ⟨package, above⟩ = false :=
        Bool.eq_false_iff.2 fun h => (Place.isSimple_mk_iff hnodup).1 h hmem
      simp only [hhere, hmem, Bool.not_false, decide_true, Bool.true_or]
    · have hhere : Place.isSimple base ⟨package, above⟩ = true :=
        (Place.isSimple_mk_iff hnodup).2 hmem
      rw [hhere, @ihBelow (package :: above) (List.nodup_cons.2 ⟨hmem, hnodup⟩)]
      simp only [hmem, decide_false, Bool.not_true]

end Forest

end PackageLint.Output
