import Mathlib
import PackageLint.Proofs.Json.RoundTrip
import PackageLint.Proofs.Output.Pins

/-!
# What a pin is and what is shown of it

A pin is classified by its branch first, then by its revision if it has neither branch nor version.
What is shown of it is its version first, then its branch, then its revision. Both tell the same
story of a pin unless its fields contradict each other: it has a branch and a version, or a revision
beside a branch or a version that is no text.

## Main definitions

* `stateField`: a field of the state of a pin;
* `TellsSameStory`: what is shown of a pin is what it is classified as;
* `HasPlainVersion`: the version of a pin cannot be taken for a branch or a revision;
* `Contradicts`: the fields of a pin contradict each other.

## Main results

* `form_ofTable`, `version_pinnedPackage`: the two functions, field by field;
* `tellsSameStory_iff`: when the two tell the same story of a pin;
* `readResolved_tellsSameStory_iff`: the same for the pins of a document.
-/

namespace PackageLint.Output

open Resolved

/-- A field of the state of a pin, nothing where it has none. -/
def stateField (pin : Table) (key : String) : Value :=
  match Table.get pin "state" with
  | .table state => Table.get state key
  | _ => .null

/-- What is shown of a package is what its pin is classified as: a branch by its name, a bare
revision by its beginning, and anything else by its version if there is one. -/
structure TellsSameStory (pin : Table) (package : ExternalDependency) : Prop where
  /-- The name of a branch is shown of a pin to the branch only. -/
  branch : ∀ name, package.version = some ("branch: " ++ name) ↔
    (Pin.ofTable pin).form = .branch name
  /-- At most seven characters of the revision are shown of a bare revision only. -/
  revision : (∃ revision, stateField pin "revision" = .text revision ∧
      package.version = some ("revision: " ++ .ofList (revision.toList.take 7))) ↔
    (Pin.ofTable pin).form = .revisionOnly
  /-- The version or nothing is shown of any other pin only. -/
  version : (package.version = none ∨ ∃ version, stateField pin "version" = .text version ∧
      package.version = some version) ↔
    (Pin.ofTable pin).form = .version

/-- The version of a pin cannot be taken for a branch or a revision. -/
def HasPlainVersion (pin : Table) : Prop :=
  ∀ version, stateField pin "version" = .text version →
    ¬ "branch: ".toList <+: version.toList ∧ ¬ "revision: ".toList <+: version.toList

/-- A pin has a branch and a version, or a revision beside a branch or a version that is no text. -/
def Contradicts (pin : Table) : Prop :=
  (∃ branch version, stateField pin "branch" = .text branch ∧
    stateField pin "version" = .text version) ∨
  (∃ revision, stateField pin "revision" = .text revision) ∧
    (stateField pin "branch").text? = none ∧ (stateField pin "version").text? = none ∧
    ¬ (stateField pin "branch" = .null ∧ stateField pin "version" = .null)

/-! ## The two functions, field by field -/

section Pin

variable {pin : Table}

/-- A pin is classified as a branch whatever else it has. -/
theorem form_eq_branch_iff {name : String} :
    (Pin.ofTable pin).form = .branch name ↔ stateField pin "branch" = .text name := by
  show Pin.formOf _ = _ ↔ _
  unfold stateField Pin.formOf
  cases Table.get pin "state" with
  | scalar | list => simp
  | table state =>
    dsimp only
    split <;> simp_all

/-- A pin is classified as a bare revision if it has neither branch nor version. -/
theorem form_eq_revisionOnly_iff :
    (Pin.ofTable pin).form = .revisionOnly ↔
      stateField pin "branch" = .null ∧ stateField pin "version" = .null ∧
        ∃ revision, stateField pin "revision" = .text revision := by
  show Pin.formOf _ = _ ↔ _
  unfold stateField Pin.formOf
  cases Table.get pin "state" with
  | scalar | list => simp
  | table state =>
    dsimp only
    split
    · simp_all
    · simp_all
    · rename_i hbare
      refine iff_of_false nofun ?_
      rintro ⟨hbranch, hversion, revision, hrevision⟩
      exact hbare revision hbranch hrevision hversion

/-- A pin has a version exactly if it is neither to a branch nor to a bare revision. -/
theorem form_eq_version_iff :
    (Pin.ofTable pin).form = .version ↔
      (∀ name, (Pin.ofTable pin).form ≠ .branch name) ∧ (Pin.ofTable pin).form ≠ .revisionOnly := by
  cases (Pin.ofTable pin).form <;> simp

/-- What is shown is the version, else the branch, else the beginning of the revision. -/
theorem version_pinnedPackage :
    (pinnedPackage pin).version = (stateField pin "version").text?.or
      (((stateField pin "branch").text?.map ("branch: " ++ ·)).or
        ((stateField pin "revision").text?.map fun revision =>
          "revision: " ++ .ofList (revision.toList.take 7))) := by
  show pinVersion? _ = _
  unfold stateField pinVersion?
  cases Table.get pin "state" with
  | scalar | list => rfl
  | table state =>
    dsimp only
    -- The version goes first, then the branch, then the revision.
    split
    · rename_i hversion
      rw [hversion]
      rfl
    · rename_i hbranch hversion
      rw [Value.text?_eq_none_iff.2 hversion, hbranch]
      rfl
    · rename_i hrevision hversion hbranch
      rw [Value.text?_eq_none_iff.2 hversion, Value.text?_eq_none_iff.2 hbranch, hrevision]
      rfl
    · rename_i hversion hbranch hrevision
      rw [Value.text?_eq_none_iff.2 hversion, Value.text?_eq_none_iff.2 hbranch,
        Value.text?_eq_none_iff.2 hrevision]
      rfl

/-! ## The same story -/

/-- What is shown of a branch cannot be taken for what is shown of a revision. -/
theorem branch_append_ne_revision_append (s t : String) : "branch: " ++ s ≠ "revision: " ++ t := by
  intro h
  have hchars := congrArg String.toList h
  simp at hchars

/-- A plain version is not taken for a branch that is shown. -/
theorem HasPlainVersion.ne_branch {version name : String} (hplain : HasPlainVersion pin)
    (h : stateField pin "version" = .text version) : version ≠ "branch: " ++ name := by
  rintro rfl
  exact (hplain _ h).1 (by simp)

/-- A plain version is not taken for a revision that is shown. -/
theorem HasPlainVersion.ne_revision {version revision : String} (hplain : HasPlainVersion pin)
    (h : stateField pin "version" = .text version) : version ≠ "revision: " ++ revision := by
  rintro rfl
  exact (hplain _ h).2 (by simp)

/-- A pin with a branch and no version shows the branch. -/
theorem tellsSameStory_of_branch {name : String} (hbranch : stateField pin "branch" = .text name)
    (hversion : (stateField pin "version").text? = none) :
    TellsSameStory pin (pinnedPackage pin) := by
  have hshown : (pinnedPackage pin).version = some ("branch: " ++ name) := by
    rw [version_pinnedPackage, hversion, hbranch]
    rfl
  have hform := form_eq_branch_iff.2 hbranch
  -- What begins like a branch shows neither a revision nor a version.
  refine ⟨fun other => ?_, iff_of_false ?_ (by simp [hform]), iff_of_false ?_ (by simp [hform])⟩
  · simp [hshown, hform]
  · rintro ⟨revision, -, hrevision⟩
    rw [hshown, Option.some_inj] at hrevision
    exact branch_append_ne_revision_append _ _ hrevision
  · rw [hshown]
    rintro (h | ⟨version, htext, -⟩)
    · cases h
    · exact Value.text?_eq_none_iff.1 hversion version htext

/-- A pin with a revision and neither branch nor version shows the beginning of the revision. -/
theorem tellsSameStory_of_revision {revision : String}
    (hrevision : stateField pin "revision" = .text revision)
    (hbranch : stateField pin "branch" = .null) (hversion : stateField pin "version" = .null) :
    TellsSameStory pin (pinnedPackage pin) := by
  have hshown : (pinnedPackage pin).version =
      some ("revision: " ++ .ofList (revision.toList.take 7)) := by
    rw [version_pinnedPackage, hversion, hbranch, hrevision]
    rfl
  have hform := form_eq_revisionOnly_iff.2 ⟨hbranch, hversion, revision, hrevision⟩
  refine ⟨fun name => iff_of_false ?_ (by simp [hform]),
    iff_of_true ⟨revision, hrevision, hshown⟩ hform, iff_of_false ?_ (by simp [hform])⟩
  · rw [hshown, Option.some_inj]
    exact (branch_append_ne_revision_append _ _).symm
  · rw [hshown, hversion]
    rintro (h | ⟨version, h, -⟩) <;> cases h

/-- Any other pin shows its version, or nothing. -/
theorem tellsSameStory_of_version (hplain : HasPlainVersion pin)
    (hbranch : (stateField pin "branch").text? = none)
    (hbare : (stateField pin "version").text? = none → (stateField pin "revision").text? = none) :
    TellsSameStory pin (pinnedPackage pin) := by
  have hshown : (pinnedPackage pin).version = (stateField pin "version").text? := by
    rw [version_pinnedPackage, hbranch]
    cases hversion : (stateField pin "version").text? with
    | some version => rfl
    | none => rw [hbare hversion]; rfl
  have hform : (Pin.ofTable pin).form = .version := by
    refine form_eq_version_iff.2 ⟨fun name h => ?_, fun h => ?_⟩
    · exact Value.text?_eq_none_iff.1 hbranch name (form_eq_branch_iff.1 h)
    · obtain ⟨-, hnull, revision, hrevision⟩ := form_eq_revisionOnly_iff.1 h
      exact Value.text?_eq_none_iff.1 (hbare (by rw [hnull]; rfl)) revision hrevision
  -- What is shown is the version itself, which is plain and so not mistaken for anything else.
  have hplain' {shown : String} (h : (pinnedPackage pin).version = some shown) :
      stateField pin "version" = .text shown := Value.text?_eq_some_iff.1 (hshown.symm.trans h)
  refine ⟨fun name => iff_of_false (fun h => ?_) (by simp [hform]),
    iff_of_false ?_ (by simp [hform]), iff_of_true ?_ hform⟩
  · exact hplain.ne_branch (hplain' h) rfl
  · rintro ⟨revision, -, h⟩
    exact hplain.ne_revision (hplain' h) rfl
  · rw [hshown]
    cases hversion : (stateField pin "version").text? with
    | none => exact .inl rfl
    | some version => exact .inr ⟨version, Value.text?_eq_some_iff.1 hversion, rfl⟩

/-- What is shown of a pin is what it is classified as exactly if its fields do not contradict each
other. -/
theorem tellsSameStory_iff (hplain : HasPlainVersion pin) :
    TellsSameStory pin (pinnedPackage pin) ↔ ¬ Contradicts pin := by
  constructor
  · rintro ⟨hstory, hbare, -⟩ (⟨name, version, hbranch, hversion⟩ |
      ⟨⟨revision, hrevision⟩, hbranch, hversion, hnull⟩)
    -- The version is shown of a branch.
    · have hshown := (hstory name).2 (form_eq_branch_iff.2 hbranch)
      rw [version_pinnedPackage, hversion] at hshown
      exact hplain.ne_branch hversion (Option.some.inj hshown)
    -- A revision is shown of what is no bare revision.
    · have hshown : (pinnedPackage pin).version =
          some ("revision: " ++ .ofList (revision.toList.take 7)) := by
        rw [version_pinnedPackage, hbranch, hversion, hrevision]
        rfl
      obtain ⟨hbranch, hversion, -⟩ :=
        form_eq_revisionOnly_iff.1 (hbare.1 ⟨revision, hrevision, hshown⟩)
      exact hnull ⟨hbranch, hversion⟩
  · intro h
    obtain ⟨hboth, hodd⟩ := not_or.1 h
    cases hbranch : (stateField pin "branch").text? with
    | some name =>
      rw [Value.text?_eq_some_iff] at hbranch
      refine tellsSameStory_of_branch hbranch (Value.text?_eq_none_iff.2 fun version hversion => ?_)
      exact hboth ⟨name, version, hbranch, hversion⟩
    -- Without a branch the version is shown, unless there is nothing but a revision.
    | none =>
      by_cases hbare : (stateField pin "version").text? = none →
          (stateField pin "revision").text? = none
      · exact tellsSameStory_of_version hplain hbranch hbare
      · obtain ⟨hversion, hrevision⟩ := Classical.not_imp.1 hbare
        obtain ⟨revision, hrevision⟩ := Option.ne_none_iff_exists'.1 hrevision
        rw [Value.text?_eq_some_iff] at hrevision
        have hnull : stateField pin "branch" = .null ∧ stateField pin "version" = .null := by
          by_contra hnot
          exact hodd ⟨⟨revision, hrevision⟩, hbranch, hversion, hnot⟩
        exact tellsSameStory_of_revision hrevision hnull.1 hnull.2

end Pin

/-! ## The pins of a document -/

/-- The dependencies of a document are what is shown of its pins. -/
theorem dependencies_readResolved {text : String} {document : Value}
    (hread : bracedDocument? text = some document) :
    (readResolved text).dependencies =
      some { external := (pinTables document).map pinnedPackage } := by
  rw [readResolved, hread, PinListing.external_ofItems, items_listedPins]
  rfl

/-- For every document, and every pin in it whose version cannot be taken for a branch or a
revision, what is shown of the pin is what it is classified as exactly if the fields of the pin do
not contradict each other. -/
theorem readResolved_tellsSameStory_iff {text : String} {document : Value}
    (hread : bracedDocument? text = some document) (filter : Option String) :
    ∃ analysis found, readAs .resolved text filter = .ok analysis ∧
      analysis.dependencies = some found ∧
      List.Forall₂
        (fun pin package =>
          HasPlainVersion pin → (TellsSameStory pin package ↔ ¬ Contradicts pin))
        (pinTables document) found.external := by
  refine ⟨_, _, rfl, dependencies_readResolved hread, ?_⟩
  rw [List.forall₂_map_right_iff, List.forall₂_same]
  exact fun pin _ hplain => tellsSameStory_iff hplain

/-- A document that can be written is read with its braces. -/
theorem bracedDocument?_write (indent : Option Nat) {entries : Table}
    (h : (Value.table entries).IsPlain) :
    bracedDocument? (Json.write indent (.table entries)) = some (.table entries) := by
  obtain ⟨inside, hinside⟩ : ∃ inside, (Json.write indent (.table entries)).toList =
      '\x7b' :: inside ++ ['\x7d'] := by
    rw [Json.write, Json.writeAt, Json.bracketed]
    split
    · exact ⟨[], rfl⟩
    · simp only [String.toList_append]
      exact ⟨_, rfl⟩
  have hread := Json.read?_eq_some_iff.2 (Json.read_write indent h)
  refine bracedDocument?_eq_some hread ?_
  -- The braces themselves are at the ends of the text, so that there is nothing to trim.
  rw [hinside]
  have hlast : ('\x7b' :: inside ++ ['\x7d']).getLast? = some '\x7d' := List.getLast?_concat
  refine (congrArg Text.trim (List.append_nil _).symm).trans
    (Text.trim_append_append (List.forall_mem_nil _) (List.forall_mem_nil _) (List.cons_ne_nil _ _)
      (fun c hc => ?_) fun c hc => ?_)
  · obtain rfl := Option.some_inj.1 hc
    rfl
  · obtain rfl := Option.some_inj.1 (hlast.symm.trans hc)
    rfl

/-- A pin with some texts in its state. -/
def pinOf (identity : String) (state : List (String × String)) : Table :=
  [(.text "identity", .text identity),
    (.text "state", .ofFields (state.map fun field => (field.1, .text field.2)))]

/-- A document with some pins. -/
def lockOf (pins : List Table) : Table := [(.text "pins", .list (pins.map .table))]

/-- A pin to a branch. -/
def branchPin : Table := pinOf "sharing" [("branch", "main"), ("revision", "0123456789abcdef")]

/-- A pin to a branch that has a version as well. -/
def taggedPin : Table := pinOf "nav" [("branch", "main"), ("version", "1.0.0")]

/-- A pin with different fields in its state is read back as it was written. -/
theorem isPlain_pinOf (identity : String) {state : List (String × String)}
    (hkeys : (state.map (·.1)).Nodup) : (Value.table (pinOf identity state)).IsPlain := by
  have hstate : (Value.ofFields (state.map fun field => (field.1, .text field.2))).IsPlain := by
    refine .ofFields (by rwa [List.map_map]) fun field hfield => ?_
    obtain ⟨field, -, rfl⟩ := List.mem_map.1 hfield
    exact .text _
  have hfields : (Value.ofFields [("identity", .text identity),
      ("state", .ofFields (state.map fun field => (field.1, .text field.2)))]).IsPlain :=
    .ofFields (by simp) (by simp [hstate, Value.IsPlain.text])
  exact hfields

/-- A document of pins that are read back is read back itself. -/
theorem isPlain_lockOf {pins : List Table} (hpins : ∀ pin ∈ pins, (Value.table pin).IsPlain) :
    (Value.table (lockOf pins)).IsPlain := by
  have hlist : (Value.list (pins.map .table)).IsPlain := by
    refine .list fun item hitem => ?_
    obtain ⟨pin, hpin, rfl⟩ := List.mem_map.1 hitem
    exact hpins pin hpin
  have hfields : (Value.ofFields [("pins", .list (pins.map .table))]).IsPlain :=
    .ofFields (by simp) (by simpa using hlist)
  exact hfields

/-- A document with pins is read as it was written. -/
theorem bracedDocument?_write_lockOf {pins : List Table}
    (hpins : ∀ pin ∈ pins, (Value.table pin).IsPlain) :
    bracedDocument? (Json.write none (.table (lockOf pins))) = some (.table (lockOf pins)) :=
  bracedDocument?_write none (isPlain_lockOf hpins)

theorem isPlain_branchPin : (Value.table branchPin).IsPlain := isPlain_pinOf _ (by decide)

theorem isPlain_taggedPin : (Value.table taggedPin).IsPlain := isPlain_pinOf _ (by decide)

/-- A pin without a version has none that could be mistaken. -/
theorem hasPlainVersion_branchPin : HasPlainVersion branchPin := by
  intro version hversion
  have htext : (stateField branchPin "version").text? = none := by cbv
  exact absurd hversion (Value.text?_eq_none_iff.1 htext version)

/-- A pin to a branch alone does not contradict itself. -/
theorem not_contradicts_branchPin : ¬ Contradicts branchPin := by
  have htext : (stateField branchPin "version").text? = none := by cbv
  have hbranch : (stateField branchPin "branch").text? = some "main" := by cbv
  rintro (⟨branch, version, -, hversion⟩ | ⟨-, hnone, -⟩)
  · exact Value.text?_eq_none_iff.1 htext version hversion
  · rw [hbranch] at hnone
    cases hnone

theorem hasPlainVersion_taggedPin : HasPlainVersion taggedPin := by
  intro version hversion
  have htext : (stateField taggedPin "version").text? = some "1.0.0" := by cbv
  rw [← Value.text?_eq_some_iff, htext, Option.some_inj] at hversion
  rw [← hversion]
  decide

/-- A branch and a version in one pin contradict each other. -/
theorem contradicts_taggedPin : Contradicts taggedPin :=
  .inl ⟨"main", "1.0.0", Value.text?_eq_some_iff.1 (by cbv), Value.text?_eq_some_iff.1 (by cbv)⟩

/-- The same story is told of a branch, and not of a branch with a version. -/
theorem readResolved_tellsSameStory_iff_taggedPin :
    let lock : Table := lockOf [branchPin, taggedPin]
    bracedDocument? (Json.write none (.table lock)) = some (.table lock) ∧
      HasPlainVersion branchPin ∧ HasPlainVersion taggedPin ∧
      ∃ analysis found branch tagged,
        readAs .resolved (Json.write none (.table lock)) none = .ok analysis ∧
        analysis.dependencies = some found ∧ found.external = [branch, tagged] ∧
        TellsSameStory branchPin branch ∧ ¬ TellsSameStory taggedPin tagged := by
  intro lock
  have hread : bracedDocument? (Json.write none (.table lock)) = some (.table lock) :=
    bracedDocument?_write_lockOf (by simp [isPlain_branchPin, isPlain_taggedPin])
  obtain ⟨analysis, found, hanalysis, hfound, hpins⟩ := readResolved_tellsSameStory_iff hread none
  have hlock : pinTables (.table lock) = [branchPin, taggedPin] := rfl
  rw [hlock] at hpins
  obtain ⟨branch, rest, hbranch, hrest, hexternal⟩ := List.forall₂_cons_left_iff.1 hpins
  obtain ⟨tagged, none, htagged, hnone, rfl⟩ := List.forall₂_cons_left_iff.1 hrest
  obtain rfl := List.forall₂_nil_left_iff.1 hnone
  refine ⟨hread, hasPlainVersion_branchPin, hasPlainVersion_taggedPin, analysis, found, branch,
    tagged, hanalysis, hfound, hexternal, ?_, ?_⟩
  · exact (hbranch hasPlainVersion_branchPin).2 not_contradicts_branchPin
  · exact fun h => (htagged hasPlainVersion_taggedPin).1 h contradicts_taggedPin

/-- A pin that is classified as a branch shows its version. -/
theorem not_tellsSameStory_taggedPin :
    let lock : Table := lockOf [taggedPin]
    HasPlainVersion taggedPin ∧ (Resolved.Pin.ofTable taggedPin).form = .branch "main" ∧
      ∃ analysis found tagged,
        readAs .resolved (Json.write none (.table lock)) none = .ok analysis ∧
        analysis.dependencies = some found ∧ found.external = [tagged] ∧
        tagged.version = some "1.0.0" ∧ ¬ TellsSameStory taggedPin tagged := by
  intro lock
  have hread : bracedDocument? (Json.write none (.table lock)) = some (.table lock) :=
    bracedDocument?_write_lockOf (by simp [isPlain_taggedPin])
  refine ⟨hasPlainVersion_taggedPin, by cbv, _, _, _, rfl, dependencies_readResolved hread, rfl,
    by cbv, ?_⟩
  exact fun h => (tellsSameStory_iff hasPlainVersion_taggedPin).1 h contradicts_taggedPin

end PackageLint.Output
