import PackageLint.Proofs.Dependency.Document
import PackageLint.Proofs.Dependency.Drawing

/-!
# The two formats of a dependency graph

The same forest of packages below a root can be given as a document or as a drawing. A reader of
the document knows the root and turns back at a repeated name, while the drawing has no name for
its root and is read to the end. So both say the same of a forest without repeated names, and in
general the document says what the drawing of the forest says once repeated places are cut off.

## Main definitions

* `DescribesGraph`: a document describes a root and the forest below it;
* `HasDependencies`: what a text is read as.

## Main results

* `formats_agree`: what a document and a drawing of the same forest say.
-/

namespace PackageLint.Output

/-- The tables describe the packages of a forest, each with its identity, address and version. -/
inductive DescribesForest : List Table → Forest → Prop
  | nil : DescribesForest [] .nil
  | cons {entries : Table} {tables : List Table} {package : DrawablePackage} {below rest : Forest}
      (hpackage : packageOf entries = package.dependency)
      (hbelow : DescribesForest (dependencyTables entries) below)
      (hrest : DescribesForest tables rest) :
      DescribesForest (entries :: tables) (.cons package below rest)

/-- The document describes the package `name` with a forest below it. -/
structure DescribesGraph (root : Table) (name : String) (forest : Forest) : Prop where
  identity : packageIdentity root = name
  lists : ListsDependencies root
  below : DescribesForest (dependencyTables root) forest

/-- The text is read as a graph with the given dependencies. -/
def HasDependencies (text : String) (dependencies : Dependencies) : Prop :=
  ∃ analysis, readGraph text = .ok analysis ∧ analysis.dependencies = some dependencies

/-- What the reader of a document sees at a place below the root `name`: it takes down the simple
places only, and a cycle at the others. -/
def Sighting.ofDescribed (name : String) (place : Place) : Sighting where
  package := place.package.dependency
  depth := place.above.length + 1
  repeats := !place.isSimple [name]
  counts := place.isSimple [name]

/-- A path through a document shows what its place in the forest does. -/
theorem Sighting.ofPath_eq_ofDescribed {name : String} {entries : Table} {path : List Table}
    {package : DrawablePackage} {above : List DrawablePackage}
    (hpackage : packageOf entries = package.dependency)
    (hpath : path.map packageIdentity = above.map (·.name) ++ [name]) :
    Sighting.ofPath (entries :: path) = .ofDescribed name ⟨package, above⟩ := by
  have hlength : path.length = above.length + 1 := by
    simpa using congrArg List.length hpath
  have hsimple : decide (IsSimple (entries :: path)) = Place.isSimple [name] ⟨package, above⟩ := by
    have hname : packageIdentity entries = package.name :=
      congrArg ExternalDependency.name hpackage
    simp only [IsSimple, List.map_cons, hname, hpath, Place.isSimple, Place.names, List.cons_append]
  rw [ofPath, ofDescribed]
  simp only [pathEnd, List.headD_cons, hpackage, hsimple, List.length_cons, hlength,
    Nat.add_sub_cancel]

/-- The paths through a document show what the places of its forest do, in the same order. -/
theorem DescribesForest.map_ofPath {name : String} {tables : List Table} {forest : Forest}
    (h : DescribesForest tables forest) {path : List Table} {above : List DrawablePackage}
    (hpath : path.map packageIdentity = above.map (·.name) ++ [name]) :
    (tables.flatMap fun child => (child :: path) :: pathsFrom path child).map Sighting.ofPath =
      (forest.places above).map (Sighting.ofDescribed name) := by
  induction h generalizing path above with
  | nil => rfl
  | @cons entries tables package below rest hpackage _ _ ihBelow ihRest =>
    have hbelow : (entries :: path).map packageIdentity =
        (package :: above).map (·.name) ++ [name] := by
      rw [List.map_cons, List.map_cons, List.cons_append, hpath]
      exact congrArg (· :: _) (congrArg ExternalDependency.name hpackage)
    rw [List.flatMap_cons, List.cons_append, List.map_cons, List.map_append, ihRest hpath,
      pathsFrom_eq_flatMap, ihBelow hbelow, Sighting.ofPath_eq_ofDescribed hpackage hpath,
      Forest.places, List.map_cons, List.map_append]

/-- At a simple place both readers see the same. -/
theorem Sighting.ofDescribed_eq_ofDrawn {name : String} {place : Place}
    (h : place.isSimple [name] = true) : ofDescribed name place = ofDrawn place := by
  have hnew : place.package.name ∉ place.above.map (·.name) := by
    intro hmem
    exact (List.nodup_cons.1 (decide_eq_true_iff.1 h)).1 (List.mem_append_left _ hmem)
  simp [ofDescribed, ofDrawn, h, hnew]

/-- What counts in a document is what a drawing of the forest shows once it is cut. -/
theorem filter_counts_ofDescribed (name : String) (forest : Forest) :
    ((forest.places []).map (Sighting.ofDescribed name)).filter (·.counts) =
      ((forest.cut [name]).places []).map Sighting.ofDrawn := by
  have hcut : (forest.cut [name]).places [] = (forest.places []).filter (·.isSimple [name]) :=
    forest.places_cut (List.nodup_singleton name)
  rw [hcut, List.filter_map]
  refine List.map_congr_left fun place hplace => ?_
  exact Sighting.ofDescribed_eq_ofDrawn (List.mem_filter.1 hplace).2

/-- A document shows a cycle where a drawing does, and where the root stands below itself. -/
theorem circular_ofDescribed_iff (name : String) (forest : Forest) :
    (((forest.places []).map (Sighting.ofDescribed name)).foldl GraphSummary.see {}).circular =
        true ↔
      (((forest.places []).map Sighting.ofDrawn).foldl GraphSummary.see {}).circular = true ∨
        ∃ place ∈ forest.places [], place.package.name = name := by
  -- A name repeats on the way up where it is the name of a package above or that of the root.
  have hany : (forest.places []).any (fun place => !place.isSimple [name]) =
      (forest.places []).any fun place =>
        decide (place.package.name ∈ place.above.map (·.name) ++ [name]) :=
    forest.any_not_isSimple (List.nodup_singleton name)
  rw [GraphSummary.circular_foldl_see, GraphSummary.circular_foldl_see, List.any_map, List.any_map,
    Bool.false_or, Bool.false_or]
  change (forest.places []).any (fun place => !place.isSimple [name]) = true ↔
    (forest.places []).any (fun place =>
      decide (place.package.name ∈ place.above.map (·.name))) = true ∨ _
  simp only [hany, List.any_eq_true, decide_eq_true_eq, List.mem_append, List.mem_singleton,
    and_or_left, exists_or]

/-- Where a document shows no cycle, its places show the same on a drawing. -/
theorem map_ofDescribed_eq_of_not_circular {name : String} {forest : Forest}
    (h : (((forest.places []).map (Sighting.ofDescribed name)).foldl GraphSummary.see
      {}).circular = false) :
    (forest.places []).map (Sighting.ofDescribed name) =
      (forest.places []).map Sighting.ofDrawn := by
  rw [GraphSummary.circular_foldl_see, Bool.false_or, List.any_map, List.any_eq_false] at h
  refine List.map_congr_left fun place hplace => Sighting.ofDescribed_eq_ofDrawn ?_
  simpa [Sighting.ofDescribed] using h place hplace

/-- What a document of a forest is read as. -/
theorem DescribesGraph.hasDependencies {text name : String} {root : Table} {forest : Forest}
    (htext : IsGraphDocument text root) (h : DescribesGraph root name forest) :
    HasDependencies text (((forest.places []).map (Sighting.ofDescribed name)).foldl
      GraphSummary.see {}).toDependencies := by
  obtain ⟨hidentity, hlists, hbelow⟩ := h
  have hroot : [root].map packageIdentity = ([] : List DrawablePackage).map (·.name) ++ [name] := by
    simp [hidentity]
  have hread := htext.readGraph_eq
  rw [hlists.summary_eq_ok, pathsFrom_eq_flatMap, hbelow.map_ofPath hroot] at hread
  exact ⟨_, hread, rfl⟩

/-- What a drawing of a forest is read as. -/
theorem Draws.hasDependencies {text : String} {forest : Forest} (h : Draws text forest) :
    HasDependencies text
      (((forest.places []).map Sighting.ofDrawn).foldl GraphSummary.see {}).toDependencies :=
  ⟨_, h.readGraph_eq, rfl⟩

namespace Forest

/-- The tables of a forest, each with an identity, an address, a version and dependencies. -/
def values : Forest → List Value
  | nil => []
  | cons package below rest =>
    .ofFields [
      ("identity", .text package.name),
      ("url", .text package.url),
      ("version", .text package.version),
      ("dependencies", .list below.values)] :: rest.values

/-- The document of a root with a forest below it. -/
def document (name : String) (forest : Forest) : Table := [
  (.text "identity", .text name),
  (.text "dependencies", .list forest.values)]

theorem isPlain_of_mem_values {forest : Forest} : ∀ v ∈ forest.values, v.IsPlain := by
  induction forest with
  | nil => simp [values]
  | cons package below rest ihBelow ihRest =>
    refine List.forall_mem_cons.2 ⟨.ofFields (by simp) fun field hfield => ?_, ihRest⟩
    simp only [List.mem_cons, List.not_mem_nil, or_false] at hfield
    rcases hfield with rfl | rfl | rfl | rfl
    · exact .text _
    · exact .text _
    · exact .text _
    · exact .list ihBelow

theorem isPlain_document (name : String) (forest : Forest) :
    (Value.table (forest.document name)).IsPlain := by
  have hfields : (Value.ofFields [("identity", .text name),
      ("dependencies", .list forest.values)]).IsPlain := by
    refine .ofFields (by simp) fun field hfield => ?_
    simp only [List.mem_cons, List.not_mem_nil, or_false] at hfield
    rcases hfield with rfl | rfl
    · exact .text _
    · exact .list isPlain_of_mem_values
  exact hfields

theorem describesForest_values (forest : Forest) :
    DescribesForest (forest.values.filterMap Value.table?) forest ∧
      ∀ entries ∈ forest.values.filterMap Value.table?, ListsDependencies entries := by
  induction forest with
  | nil => exact ⟨.nil, by simp [values]⟩
  | cons package below rest ihBelow ihRest =>
    obtain ⟨hbelow, hbelowLists⟩ := ihBelow
    obtain ⟨hrest, hrestLists⟩ := ihRest
    rw [values, Value.ofFields, List.filterMap_cons, Value.table?_table]
    refine ⟨.cons ?_ hbelow hrest, List.forall_mem_cons.2 ⟨?_, hrestLists⟩⟩
    · have hpresent : (Value.text package.name).isPresent = true := by
        simpa [Value.isPresent, Scalar.isPresent] using package.name_ne_empty
      simp [packageOf, packageIdentity, Table.get_cons, Value.orElse, hpresent, Value.text?,
        DrawablePackage.dependency]
    · exact .intro (.inr ⟨_, rfl⟩) hbelowLists

theorem describesGraph_document (name : String) (forest : Forest) :
    DescribesGraph (forest.document name) name forest := by
  obtain ⟨hbelow, hlists⟩ := forest.describesForest_values
  refine ⟨?_, .intro (.inr ⟨_, rfl⟩) hlists, hbelow⟩
  by_cases hname : name = ""
  · subst hname
    rfl
  · have hpresent : (Value.text name).isPresent = true := by
      simpa [Value.isPresent, Scalar.isPresent] using hname
    simp [packageIdentity, document, Table.get_cons, Value.orElse, hpresent]

end Forest

/-- A document of a forest lists the packages and has the depth of the drawing of the cut forest.
It shows a cycle exactly where the drawing of the whole forest does or the root stands below
itself, and where it shows none, that drawing says the same in all respects. -/
theorem formats_agree {document drawing cutDrawing name : String} {root : Table} {forest : Forest}
    (hdocument : IsGraphDocument document root) (hroot : DescribesGraph root name forest)
    (hdrawing : Draws drawing forest) (hcut : Draws cutDrawing (forest.cut [name])) :
    ∃ described drawn drawnCut, HasDependencies document described ∧
      HasDependencies drawing drawn ∧ HasDependencies cutDrawing drawnCut ∧
      described.external = drawnCut.external ∧ described.maxDepth = drawnCut.maxDepth ∧
      (described.circular = true ↔ drawn.circular = true ∨
        ∃ place ∈ forest.places [], place.package.name = name) ∧
      (described.circular = false → described = drawn) := by
  refine ⟨_, _, _, hroot.hasDependencies hdocument, hdrawing.hasDependencies, hcut.hasDependencies,
    ?_⟩
  -- What does not count in the document is what the cut takes away from the drawing.
  obtain ⟨hpackages, hdepth⟩ := GraphSummary.foldl_see_filter_counts
    ((forest.places []).map (Sighting.ofDescribed name))
  rw [filter_counts_ofDescribed] at hpackages hdepth
  refine ⟨hpackages.symm, hdepth.symm, circular_ofDescribed_iff name forest, fun hcircular => ?_⟩
  rw [map_ofDescribed_eq_of_not_circular hcircular]

/-- A package with the name `r`. -/
def loopPackage : DrawablePackage where
  name := "r"
  url := "u"
  version := "1.0"
  name_ne_empty := by decide
  name_plain := by simp [Text.isBlank]
  url_ne_empty := by decide
  url_plain := by simp [Text.isLineEnd]
  version_ne_empty := by decide
  version_plain := by simp [Text.isLineEnd]

/-- The package below itself, twice. -/
def loopForest : Forest :=
  .cons loopPackage (.cons loopPackage (.cons loopPackage .nil .nil) .nil) .nil

/-- The formats agree on the graph of a package that depends on itself. -/
theorem formats_agree_loopForest :
    ∃ described drawn drawnCut,
      HasDependencies (Json.write none (.table (loopForest.document "q"))) described ∧
      HasDependencies loopForest.drawing drawn ∧
      HasDependencies (loopForest.cut ["q"]).drawing drawnCut ∧
      described.external = drawnCut.external ∧ described.maxDepth = drawnCut.maxDepth ∧
      (described.circular = true ↔ drawn.circular = true ∨
        ∃ place ∈ loopForest.places [], place.package.name = "q") ∧
      (described.circular = false → described = drawn) :=
  formats_agree (isGraphDocument_write none (loopForest.isPlain_document "q"))
    (loopForest.describesGraph_document "q") loopForest.draws_drawing
    (loopForest.cut ["q"]).draws_drawing

/-- The formats differ in all respects on the graph of a package below a root of the same name. -/
theorem formats_differ_root_below_itself :
    let forest : Forest := .cons loopPackage .nil .nil
    let document := Json.write none (.table (forest.document "r"))
    IsGraphDocument document (forest.document "r") ∧
      DescribesGraph (forest.document "r") "r" forest ∧ Draws forest.drawing forest ∧
      ∃ described drawn, HasDependencies document described ∧
        HasDependencies forest.drawing drawn ∧ described.external ≠ drawn.external ∧
        described.maxDepth ≠ drawn.maxDepth ∧ described.circular ≠ drawn.circular := by
  intro forest document
  have hdocument := isGraphDocument_write none (forest.isPlain_document "r")
  have hroot := forest.describesGraph_document "r"
  have hdrawing := forest.draws_drawing
  refine ⟨hdocument, hroot, hdrawing, _, _, hroot.hasDependencies hdocument,
    hdrawing.hasDependencies, ?_⟩
  decide

end PackageLint.Output
