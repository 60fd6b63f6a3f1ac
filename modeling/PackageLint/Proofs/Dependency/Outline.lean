import Mathlib
import PackageLint.Proofs.Dependency.Drawing
import PackageLint.Proofs.Interspersed

/-!
# Drawings among other lines

A tool may write other lines before, between and after those of a drawing. They show no package
and are passed over, so that a drawing is read back from any text that holds it: each package once
with the address and the version of its first place, the height of the forest, and whether some
package stands below one of its own name.

The reader never sees the forest. All that it keeps of it between two lines is the way down to the
last package, and this way is the right one after every line of the drawing.

## Main definitions

* `DrawsAmong`: lines draw places, among lines that show no package;
* `Forest.height`: the number of packages on the longest way down;
* `Dependencies.Outline`: what a forest has to say.

## Main results

* `Drawing.path_foldl_add_places`: the way that is kept is the one to the last place;
* `outline_of_drawsAmong`: what a text that holds a drawing is read as, and the way on the way.
-/

namespace PackageLint.Output

/-- The lines draw places one after the other, among lines that show no package. -/
def DrawsAmong : List Place → List (List Char) → Prop :=
  Interspersed DrawsPlace fun line => DrawnPackage.ofLine? line = none

/-- The number of packages on the longest way down. -/
def Forest.height : Forest → Nat
  | nil => 0
  | cons _ below rest => max (below.height + 1) rest.height

/-- The dependencies are those of a forest. -/
structure Dependencies.Outline (dependencies : Dependencies) (forest : Forest) : Prop where
  /-- Each name is there once, in the order of the first places. -/
  names : dependencies.external.map (·.name) =
    distinct ((forest.places []).map (·.package.name))
  /-- A package has the address and the version of the first place of its name. -/
  first : ∀ package ∈ dependencies.external,
    ((forest.places []).map (·.package.dependency)).find? (·.name = package.name) = some package
  depth : dependencies.maxDepth = forest.height
  circular : dependencies.circular = true ↔
    ∃ place ∈ forest.places [], place.package.name ∈ place.above.map (·.name)

theorem DrawsAmong.filterMap_ofLine? {places : List Place} {lines : List (List Char)}
    (h : DrawsAmong places lines) :
    lines.filterMap DrawnPackage.ofLine? = places.map (·.drawn) :=
  Interspersed.filterMap_eq h (fun _ _ => DrawnPackage.ofLine?_of_drawsPlace) fun _ => id

/-! ## The way down to the last place -/

/-- After each place of a forest, the way that is kept is the one down to it. -/
theorem Drawing.path_foldl_add_places (forest : Forest) {above : List DrawablePackage}
    {drawing : Drawing} (hdrawing : drawing.IsBelow above) {before after : List Place}
    {place : Place} (hplaces : forest.places above = before ++ place :: after) :
    (((before ++ [place]).map (·.drawn)).foldl add drawing).path =
      wayDown (place.package :: place.above) := by
  induction forest generalizing above drawing before after with
  | nil => simp [Forest.places] at hplaces
  | cons package below rest ihBelow ihRest =>
    have hadd := @add_drawn _ package _ hdrawing
    have hhere : (drawing.add (Place.drawn ⟨package, above⟩)).IsBelow (package :: above) := by
      rw [hadd]
      exact List.prefix_refl _
    rw [Forest.places] at hplaces
    cases before with
    | nil =>
      -- The place is the one of the first package.
      obtain ⟨rfl, -⟩ := List.cons.inj hplaces
      rw [List.nil_append, List.map_singleton, List.foldl_cons, List.foldl_nil, hadd]
    | cons first before =>
      rw [List.cons_append] at hplaces
      obtain ⟨rfl, htail⟩ := List.cons.inj hplaces
      rw [List.cons_append, List.map_cons, List.foldl_cons]
      -- A place beside the first package comes behind all places below it.
      have hbeside (others : List Place)
          (hbefore : before = below.places (package :: above) ++ others)
          (hrest : rest.places above = others ++ place :: after) :
          (((before ++ [place]).map (·.drawn)).foldl add
            (drawing.add (Place.drawn ⟨package, above⟩))).path =
              wayDown (place.package :: place.above) := by
        have habove : wayDown above <+: wayDown (package :: above) := by
          rw [wayDown_cons]
          exact List.prefix_append _ _
        obtain ⟨hpath, -⟩ := foldl_add_places below hhere
        rw [hbefore, List.append_assoc, List.map_append, List.foldl_append]
        exact ihRest (habove.trans hpath) hrest
      rcases List.append_eq_append_iff.1 htail with
        ⟨others, hbefore, hrest⟩ | ⟨others, hbelow, hrest⟩
      · exact hbeside others hbefore hrest
      · cases others with
        | nil => exact hbeside [] (by simpa using hbelow.symm) (by simpa using hrest.symm)
        | cons next others =>
          obtain ⟨rfl, -⟩ := List.cons.inj hrest
          exact ihBelow hhere hbelow

/-! ## The height of a forest -/

/-- A forest is as high as its places are deep. -/
theorem Forest.height_le_iff (forest : Forest) {above : List DrawablePackage} {n : Nat} :
    forest.height ≤ n ↔
      ∀ place ∈ forest.places above, place.above.length + 1 ≤ above.length + n := by
  induction forest generalizing above n with
  | nil => simp [height, places]
  | cons package below rest ihBelow ihRest =>
    rw [height, Nat.max_le, places, List.forall_mem_cons, List.forall_mem_append, ← ihRest]
    -- Below the package there is one level less to go down, and one more package above.
    cases n with
    | zero =>
      exact ⟨fun h => absurd h.1 (Nat.not_succ_le_zero _),
        fun h => absurd h.1 (Nat.not_succ_le_self above.length)⟩
    | succ n =>
      have hbelow : below.height ≤ n ↔ ∀ place ∈ below.places (package :: above),
          place.above.length + 1 ≤ above.length + (n + 1) := by
        rw [ihBelow, List.length_cons, Nat.add_right_comm, Nat.add_assoc]
      have hhere : above.length + 1 ≤ above.length + (n + 1) := by omega
      rw [Nat.add_le_add_iff_right, hbelow]
      exact ⟨fun h => ⟨hhere, h⟩, fun h => h.2⟩

/-! ## What is read -/

/-- What is seen at the places of a forest is its outline. -/
theorem outline_foldl_see (forest : Forest) :
    (((forest.places []).map Sighting.ofDrawn).foldl GraphSummary.see {}).toDependencies.Outline
      forest := by
  set sightings := (forest.places []).map Sighting.ofDrawn with hsightings
  -- On a drawing every sighting counts.
  have hcounts : (sightings.filter (·.counts)).map (·.package) =
      (forest.places []).map (·.package.dependency) := by
    rw [hsightings, List.filter_eq_self.2 (by simp [Sighting.ofDrawn]), List.map_map]
    rfl
  have hpackages : (sightings.foldl GraphSummary.see {}).packages =
      firstOfNames ((forest.places []).map (·.package.dependency)) := by
    rw [GraphSummary.packages_foldl_see, hcounts]
  have hdepth {n : Nat} : (sightings.foldl GraphSummary.see {}).maxDepth ≤ n ↔
      forest.height ≤ n := by
    rw [GraphSummary.maxDepth_foldl_see_le_iff, @Forest.height_le_iff forest []]
    simp [hsightings, Sighting.ofDrawn]
  refine ⟨?_, ?_, ?_, ?_⟩
  · change (sightings.foldl GraphSummary.see {}).packages.map (·.name) = _
    rw [hpackages, map_name_firstOfNames, List.map_map]
    rfl
  · intro package hmem
    change package ∈ (sightings.foldl GraphSummary.see {}).packages at hmem
    rw [hpackages] at hmem
    exact find?_of_mem_firstOfNames hmem
  · exact Nat.le_antisymm (hdepth.2 (Nat.le_refl _)) (hdepth.1 (Nat.le_refl _))
  · change (sightings.foldl GraphSummary.see {}).circular = true ↔ _
    rw [GraphSummary.circular_foldl_see]
    simp [hsightings, Sighting.ofDrawn]

/-- A text that holds a drawing of a forest is read as the outline of the forest, and is a success
exactly if no cycle is found. After each line that shows a package, the way that is kept is the
one down to the place that the line draws. -/
theorem outline_of_drawsAmong {text : String} {forest : Forest}
    (h : DrawsAmong (forest.places []) (Text.linesOf text)) :
    (∃ dependencies, ((Drawing.ofText text).summary.analysis none).dependencies =
        some dependencies ∧ dependencies.Outline forest ∧
        (((Drawing.ofText text).summary.analysis none).success = true ↔
          dependencies.circular = false)) ∧
      ∀ front line back, Text.linesOf text = front ++ line :: back →
        DrawnPackage.ofLine? line ≠ none →
        ∃ before place after, forest.places [] = before ++ place :: after ∧
          DrawsAmong before front ∧ DrawsPlace place line ∧
          (Drawing.ofLines (front ++ [line])).path = place.names.reverse := by
  have hbelow : ({} : Drawing).IsBelow [] := List.prefix_refl _
  constructor
  -- Other lines are passed over, so the summary is the one of the places in their order.
  · have hsummary : (Drawing.ofText text).summary =
        ((forest.places []).map Sighting.ofDrawn).foldl GraphSummary.see {} := by
      rw [Drawing.ofText, Drawing.ofLines, h.filterMap_ofLine?]
      exact (Drawing.foldl_add_places forest hbelow).2
    rw [hsummary]
    refine ⟨_, rfl, outline_foldl_see forest, ?_⟩
    simp [GraphSummary.analysis, GraphSummary.toDependencies]
  · intro front line back hlines hline
    -- Up to a line that is read, the lines draw the places up to the one that the line draws.
    rw [hlines] at h
    obtain ⟨before, place, after, hplaces, hbefore, hdraws⟩ := Interspersed.exists_shown h hline
    refine ⟨before, place, after, hplaces, hbefore, hdraws, ?_⟩
    have hfront : DrawsAmong (before ++ [place]) (front ++ [line]) := hbefore.concat hdraws
    rw [Drawing.ofLines, hfront.filterMap_ofLine?,
      Drawing.path_foldl_add_places forest hbelow hplaces]
    rfl

/-- A package whose address holds an at sign. -/
def hostedPackage : DrawablePackage where
  name := "a"
  url := "git@h:a"
  version := "2.0"
  name_ne_empty := by decide
  name_plain := by simp [Text.isBlank]
  url_ne_empty := by decide
  url_plain := by simp [Text.isLineEnd]
  version_ne_empty := by decide
  version_plain := by simp [Text.isLineEnd]

/-- The package below itself. -/
def hostedForest : Forest := .cons hostedPackage (.cons hostedPackage .nil .nil) .nil

/-- A drawing of the package below itself, with a line before it and one in the middle. -/
def hostedLog : String := "Fetching\n└── a<git@h:a@2.0>\n\n    ├── a<git@h:a@2.0>\n"

theorem drawsAmong_hostedLog : DrawsAmong (hostedForest.places []) (Text.linesOf hostedLog) := by
  have hlines : Text.linesOf hostedLog = ["Fetching".toList, "└── a<git@h:a@2.0>".toList, [],
      "    ├── a<git@h:a@2.0>".toList] := by decide +kernel
  have hupper : DrawsPlace ⟨hostedPackage, []⟩ "└── a<git@h:a@2.0>".toList :=
    ⟨[], '└', rfl, by simp, .inr rfl, by decide +kernel⟩
  have hlower : DrawsPlace ⟨hostedPackage, [hostedPackage]⟩ "    ├── a<git@h:a@2.0>".toList :=
    ⟨[[' ', ' ', ' ', ' ']], '├', rfl, by simp [indentations], .inl rfl, by decide +kernel⟩
  rw [hlines]
  exact .other (by decide +kernel) (.shown hupper (.other rfl (.shown hlower .nil)))

/-- The drawing of a package below itself is read back from between other lines. -/
theorem outline_of_drawsAmong_hostedLog :
    DrawsAmong (hostedForest.places []) (Text.linesOf hostedLog) ∧
      ∃ dependencies, ((Drawing.ofText hostedLog).summary.analysis none).dependencies =
        some dependencies ∧ dependencies.Outline hostedForest ∧
        (((Drawing.ofText hostedLog).summary.analysis none).success = true ↔
          dependencies.circular = false) :=
  ⟨drawsAmong_hostedLog, (outline_of_drawsAmong drawsAmong_hostedLog).1⟩

end PackageLint.Output
