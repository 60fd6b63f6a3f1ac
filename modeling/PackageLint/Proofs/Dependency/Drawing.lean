import Mathlib.Data.List.Forall2
import PackageLint.Output.Reading
import PackageLint.Proofs.Dependency.Forest

/-!
# Drawings of forests

A drawing has one line for each place of a forest, in preorder: an indentation of four characters
for each package above, a branch, and the package with its address and its version. An address may
hold at signs, since the version has none and so starts behind the last one.

Reading keeps the way down to the last package. The indentation of the next line says how much of
it stands above the next package, so that each line is read at its place in the forest.

## Main definitions

* `Draws`: the lines of a text draw a forest.

## Main results

* `ofLine?_of_drawsPlace`: a line of a drawing shows its place;
* `foldl_add_places`: reading a drawing sees the places of the forest one by one;
* `Draws.readGraph_eq`: what a text that draws a forest is read as;
* `Forest.draws_drawing`: every forest can be drawn.
-/

namespace PackageLint.Output

/-- The package as it stands behind a branch. -/
def DrawablePackage.drawn (package : DrawablePackage) : List Char :=
  package.name.toList ++
    '<' :: (package.url.toList ++ '@' :: (package.version.toList ++ ['>']))

/-- A place as a line of a drawing shows it. -/
def Place.drawn (place : Place) : DrawnPackage := ⟨place.above.length, place.package.dependency⟩

/-- The indentations of one level, with and without a line down to the next package there. -/
def indentations : List (List Char) := [['│', ' ', ' ', ' '], [' ', ' ', ' ', ' ']]

/-- The line draws a place: any indentation for each package above, any branch, the package. -/
def DrawsPlace (place : Place) (line : List Char) : Prop :=
  ∃ (groups : List (List Char)) (branch : Char), groups.length = place.above.length ∧
    (∀ group ∈ groups, group ∈ indentations) ∧ (branch = '├' ∨ branch = '└') ∧
      line = groups.flatten ++ branch :: '─' :: '─' :: ' ' :: place.package.drawn

/-- The text draws a forest: a line for the root, and then one for each place. -/
def Draws (text : String) (forest : Forest) : Prop :=
  ∃ lines, Text.linesOf text = ['.'] :: lines ∧ List.Forall₂ DrawsPlace (forest.places []) lines

/-! ## One line -/

namespace DrawnPackage

theorem drop_length_takeWhile {α : Type} (p : α → Bool) (xs : List α) :
    xs.drop (xs.takeWhile p).length = xs.dropWhile p := by
  calc xs.drop (xs.takeWhile p).length
      = (xs.takeWhile p ++ xs.dropWhile p).drop (xs.takeWhile p).length := by
        rw [List.takeWhile_append_dropWhile]
    _ = xs.dropWhile p := List.drop_left

/-- Without a closing bracket in between, an at sign is followed by the next one. -/
theorem exists_dropWhile_eq_at {cs : List Char} (h : ∀ c ∈ cs, c ≠ '>') (rest : List Char) :
    ∃ tail, (cs ++ '@' :: rest).dropWhile (fun c => c != '@' && c != '>') = '@' :: tail := by
  induction cs with
  | nil => exact ⟨rest, rfl⟩
  | cons c cs ih =>
    rw [List.forall_mem_cons] at h
    by_cases hat : c = '@'
    · exact ⟨cs ++ '@' :: rest, by rw [List.cons_append, hat]; rfl⟩
    · rw [List.cons_append, List.dropWhile_cons_of_pos (by simp [hat, h.1])]
      exact ih h.2

/-- An at sign inside an address does not end it when another one follows. -/
theorem closing?_append_at {cs : List Char} (hne : cs ≠ []) (h : ∀ c ∈ cs, c ≠ '>')
    (rest : List Char) : closing? (cs ++ '@' :: rest) = none := by
  cases cs with
  | nil => exact absurd rfl hne
  | cons c cs =>
    rw [List.forall_mem_cons] at h
    rw [List.cons_append]
    by_cases hat : c = '@'
    · -- What could be a version here runs into the next at sign and not into a closing bracket.
      obtain ⟨tail, htail⟩ := exists_dropWhile_eq_at h.2 rest
      rw [hat, closing?]
      simp only [drop_length_takeWhile, htail]
      split
      · simp_all
      · rfl
    · rw [closing?.eq_3 _ (by simpa using h.1) (by simpa using hat)]

/-- A version between an at sign and a closing bracket ends an address. -/
theorem closing?_at {version : List Char} (hne : version ≠ [])
    (h : ∀ c ∈ version, c ≠ '@' ∧ c ≠ '>') (rest : List Char) :
    closing? ('@' :: (version ++ '>' :: rest)) = some (some version) := by
  have htake : (version ++ '>' :: rest).takeWhile (fun c => c != '@' && c != '>') = version := by
    rw [List.takeWhile_append_of_pos (by simpa using h)]
    simp
  obtain ⟨c, version, rfl⟩ := List.exists_cons_of_ne_nil hne
  rw [closing?]
  simp only [htake, List.drop_left]

/-- An address with a version is read as it stands. -/
theorem address?_append {url version : List Char} (hurl : url ≠ []) (hurl' : ∀ c ∈ url, c ≠ '>')
    (hversion : version ≠ []) (hversion' : ∀ c ∈ version, c ≠ '@' ∧ c ≠ '>') (rest : List Char) :
    address? (url ++ '@' :: (version ++ '>' :: rest)) = some (url, some version) := by
  induction url with
  | nil => exact absurd rfl hurl
  | cons c url ih =>
    rw [List.forall_mem_cons] at hurl'
    rw [List.cons_append, address?]
    -- Only behind the last character of the address is there an at sign that ends it.
    by_cases hlast : url = []
    · rw [hlast, List.nil_append, closing?_at hversion hversion']
    · rw [closing?_append_at hlast hurl'.2, ih hlast hurl'.2]
      rfl

/-- The package behind a branch is read with its address and its version. -/
theorem package?_drawn (package : DrawablePackage) :
    package? package.drawn = some package.dependency := by
  have hname : package.drawn.takeWhile (fun c => c != '<' && !Text.isBlank c) =
      package.name.toList := by
    rw [DrawablePackage.drawn, List.takeWhile_append_of_pos (by simpa using package.name_plain)]
    simp
  have hne : package.name.toList.isEmpty = false := by simpa using package.name_ne_empty
  have haddress :
      address? (package.url.toList ++ '@' :: (package.version.toList ++ '>' :: [])) =
        some (package.url.toList, some package.version.toList) := by
    refine address?_append (by simpa using package.url_ne_empty) ?_
      (by simpa using package.version_ne_empty) ?_ []
    · exact fun c hc => (package.url_plain c hc).1
    · exact fun c hc => ⟨(package.version_plain c hc).1, (package.version_plain c hc).2.1⟩
  rw [package?]
  simp only [hname, hne]
  rw [DrawablePackage.drawn, List.drop_left]
  simp only [haddress]
  simp [DrawablePackage.dependency]

/-- An indentation is as wide as its levels are together. -/
theorem length_flatten_indentations {groups : List (List Char)}
    (h : ∀ group ∈ groups, group ∈ indentations) :
    groups.flatten.length = groups.length * indentWidth := by
  have hwidth : ∀ group ∈ indentations, group.length = indentWidth := by
    simp [indentations, indentWidth]
  induction groups with
  | nil => rw [List.flatten_nil, List.length_nil, List.length_nil, Nat.zero_mul]
  | cons group groups ih =>
    rw [List.forall_mem_cons] at h
    rw [List.flatten_cons, List.length_append, hwidth group h.1, ih h.2, List.length_cons,
      Nat.succ_mul, Nat.add_comm]

/-- A line of a drawing shows its place. -/
theorem ofLine?_of_drawsPlace {place : Place} {line : List Char} (h : DrawsPlace place line) :
    ofLine? line = some place.drawn := by
  obtain ⟨groups, branch, hlevels, hgroups, hbranch, rfl⟩ := h
  have hindent : ∀ c ∈ groups.flatten, isIndent c = true := by
    have hblank : ∀ group ∈ indentations, ∀ c ∈ group, isIndent c = true := by
      simp [indentations, isIndent]
    intro c hc
    obtain ⟨group, hgroup, hc⟩ := List.mem_flatten.1 hc
    exact hblank group (hgroups group hgroup) c hc
  have hstop : ¬ isIndent branch = true := by
    rcases hbranch with rfl | rfl <;> decide
  rw [ofLine?, List.takeWhile_append_of_pos hindent, List.takeWhile_cons_of_neg hstop,
    List.append_nil]
  simp only [List.drop_left, if_pos hbranch, package?_drawn, Option.map_some]
  rw [length_flatten_indentations hgroups, Nat.mul_div_cancel _ (by decide), hlevels]
  rfl

/-- The lines of a drawing show its places. -/
theorem filterMap_ofLine?_of_drawsPlace {places : List Place} {lines : List (List Char)}
    (h : List.Forall₂ DrawsPlace places lines) :
    lines.filterMap ofLine? = places.map (·.drawn) := by
  induction h with
  | nil => rfl
  | cons hline _ ih =>
    rw [List.filterMap_cons, ofLine?_of_drawsPlace hline, ih]
    rfl

end DrawnPackage

/-! ## Line by line -/

/-- What the reader of a drawing sees at a place: it takes down every package, and a cycle where
the name stands above the package as well. -/
def Sighting.ofDrawn (place : Place) : Sighting where
  package := place.package.dependency
  depth := place.above.length + 1
  repeats := decide (place.package.name ∈ place.above.map (·.name))
  counts := true

/-- The names on the way down to the packages of a list that starts with the lowest one. -/
def wayDown (above : List DrawablePackage) : List String := (above.map (·.name)).reverse

theorem length_wayDown (above : List DrawablePackage) : (wayDown above).length = above.length := by
  rw [wayDown, List.length_reverse, List.length_map]

theorem wayDown_cons (package : DrawablePackage) (above : List DrawablePackage) :
    wayDown (package :: above) = wayDown above ++ [package.name] := by
  rw [wayDown, List.map_cons, List.reverse_cons, wayDown]

namespace Drawing

/-- The drawing has come down to packages, or to some below them. -/
def IsBelow (drawing : Drawing) (above : List DrawablePackage) : Prop :=
  wayDown above <+: drawing.path

/-- Below the packages above it, a place is added with the way down to it. -/
theorem add_drawn {drawing : Drawing} {package : DrawablePackage} {above : List DrawablePackage}
    (h : drawing.IsBelow above) :
    drawing.add (Place.drawn ⟨package, above⟩) =
      { path := wayDown (package :: above)
        summary := drawing.summary.see (.ofDrawn ⟨package, above⟩) } := by
  -- The indentation cuts the way down to the last package back to the packages above this one.
  have htake : drawing.path.take above.length = wayDown above := by
    rw [← length_wayDown above]
    exact (List.prefix_iff_eq_take.1 h).symm
  have hrepeats : (wayDown above).contains package.name =
      decide (package.name ∈ above.map (·.name)) := by
    rw [wayDown, List.contains_reverse, List.contains_eq_mem]
  rw [wayDown_cons, add, GraphSummary.see]
  simp only [Place.drawn, Sighting.ofDrawn, DrawablePackage.dependency, htake, hrepeats]
  by_cases hmem : package.name ∈ above.map (·.name)
  · simp only [hmem, decide_true, if_true, Bool.or_true]
  · simp only [hmem, decide_false, Bool.or_false, if_true, Bool.false_eq_true, if_false]

/-- Reading a drawing sees the places of the forest one by one, and stays below the packages that
the forest stands below. -/
theorem foldl_add_places (forest : Forest) {above : List DrawablePackage} {drawing : Drawing}
    (h : drawing.IsBelow above) :
    (((forest.places above).map (·.drawn)).foldl add drawing).IsBelow above ∧
      (((forest.places above).map (·.drawn)).foldl add drawing).summary =
        ((forest.places above).map Sighting.ofDrawn).foldl GraphSummary.see drawing.summary := by
  induction forest generalizing above drawing with
  | nil => exact ⟨h, rfl⟩
  | cons package below rest ihBelow ihRest =>
    -- The packages below are read at the way down to this one, and those beside it at a way down
    -- that still starts with the packages above.
    have hhere : (drawing.add (Place.drawn ⟨package, above⟩)).IsBelow (package :: above) := by
      rw [add_drawn h]
      exact List.prefix_refl _
    have habove : wayDown above <+: wayDown (package :: above) := by
      rw [wayDown_cons]
      exact List.prefix_append _ _
    obtain ⟨hpath, hsummary⟩ := ihBelow hhere
    obtain ⟨hpathRest, hsummaryRest⟩ := ihRest (habove.trans hpath)
    rw [Forest.places, List.map_cons, List.map_cons, List.foldl_cons, List.foldl_cons,
      List.map_append, List.map_append, List.foldl_append, List.foldl_append]
    refine ⟨hpathRest, ?_⟩
    rw [hsummaryRest, hsummary, add_drawn h]

end Drawing

/-- What a text that draws a forest is read as. -/
theorem Draws.readGraph_eq {text : String} {forest : Forest} (h : Draws text forest) :
    readGraph text = .ok ((((forest.places []).map Sighting.ofDrawn).foldl GraphSummary.see
      {}).analysis none) := by
  obtain ⟨lines, hlines, hdraws⟩ := h
  have hbrace : startsWithBrace text = false := by
    obtain ⟨rest, hrest⟩ := Text.exists_eq_cons_of_splitLines hlines
    rw [startsWithBrace, hrest]
    rfl
  -- The line of the root has no branch and shows no package.
  have hroot : DrawnPackage.ofLine? ['.'] = none := by decide
  have hbelow : ({} : Drawing).IsBelow [] := List.prefix_refl _
  rw [readGraph, hbrace, Drawing.ofText, Drawing.ofLines, hlines, List.filterMap_cons, hroot]
  simp only [DrawnPackage.filterMap_ofLine?_of_drawsPlace hdraws]
  rw [(Drawing.foldl_add_places forest hbelow).2]
  rfl

/-! ## Drawing a forest -/

/-- A line that draws a place. -/
def Place.line (place : Place) : List Char :=
  (List.replicate place.above.length ['│', ' ', ' ', ' ']).flatten ++
    '├' :: '─' :: '─' :: ' ' :: place.package.drawn

/-- A drawing of a forest. -/
def Forest.drawing (forest : Forest) : String :=
  .ofList (Text.joinLines (['.'] :: (forest.places []).map (·.line)))

theorem Place.drawsPlace_line (place : Place) : DrawsPlace place place.line := by
  refine ⟨_, '├', List.length_replicate, fun group hgroup => ?_, .inl rfl, rfl⟩
  rw [List.eq_of_mem_replicate hgroup]
  exact List.mem_cons_self

/-- A line end is a blank. -/
theorem isLineEnd_eq_false_of_isBlank {c : Char} (h : Text.isBlank c = false) :
    Text.isLineEnd c = false := by
  simp only [Text.isBlank, Text.isLineEnd, Bool.or_eq_false_iff, Bool.and_eq_false_iff,
    decide_eq_false_iff_not, beq_eq_false_iff_ne] at h ⊢
  omega

theorem DrawablePackage.not_isLineEnd_of_mem_drawn {package : DrawablePackage} {c : Char}
    (h : c ∈ package.drawn) : Text.isLineEnd c = false := by
  simp only [drawn, List.mem_append, List.mem_cons, List.not_mem_nil, or_false] at h
  rcases h with hname | rfl | hurl | rfl | hversion | rfl
  · exact isLineEnd_eq_false_of_isBlank (package.name_plain c hname).2
  · decide
  · exact (package.url_plain c hurl).2
  · decide
  · exact (package.version_plain c hversion).2.2
  · decide

theorem Place.not_isLineEnd_of_mem_line {place : Place} {c : Char} (h : c ∈ place.line) :
    Text.isLineEnd c = false := by
  simp only [line, List.mem_append, List.mem_flatten, List.mem_cons] at h
  rcases h with ⟨group, hgroup, hc⟩ | rfl | rfl | rfl | rfl | hdrawn
  · rw [List.eq_of_mem_replicate hgroup] at hc
    have hblank : ∀ c ∈ ['│', ' ', ' ', ' '], Text.isLineEnd c = false := by
      simp [Text.isLineEnd]
    exact hblank c hc
  · decide
  · decide
  · decide
  · decide
  · exact DrawablePackage.not_isLineEnd_of_mem_drawn hdrawn

theorem Forest.draws_drawing (forest : Forest) : Draws forest.drawing forest := by
  refine ⟨(forest.places []).map (·.line), ?_, ?_⟩
  · rw [Text.linesOf, drawing, String.toList_ofList]
    refine Text.splitLines_joinLines (List.forall_mem_cons.2 ⟨?_, fun line hline => ?_⟩)
    · simp [Text.isLineEnd]
    obtain ⟨place, -, rfl⟩ := List.mem_map.1 hline
    refine ⟨?_, fun c hc => place.not_isLineEnd_of_mem_line hc⟩
    simp [Place.line]
  · rw [List.forall₂_map_right_iff]
    exact List.forall₂_same.2 fun place _ => place.drawsPlace_line

end PackageLint.Output
