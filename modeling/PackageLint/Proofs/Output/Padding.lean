import Mathlib
import PackageLint.Output.Reading
import PackageLint.Proofs.Json.Padding
import PackageLint.Proofs.Output.CarriageReturn
import PackageLint.Proofs.Text.Trim

/-!
# Documents among blanks

The kind of a document is told without the blanks around it. The reader of lock files leaves the
same blanks away, the reader of graphs leaves away those in front, and the reader of dumps leaves
all of them to the reader of JSON, which skips the spaces between tokens and no other blank. So a
document of which the kind was told may still be no document to the reader of its kind.

## Main definitions

* `PassesPadding`: the blanks around a document do not stop the reader of its kind;
* `SaysInvalidJson`: an outcome with an issue that says that the output is no document.

## Main results

* `readAs_eq_of_passesPadding`: with such blanks a document is read as it is without them;
* `saysInvalidJson_of_not_passesPadding`: with others it is said to be none;
* `reads_detected_document_iff`: exactly when detection and reading see the same document.
-/

namespace PackageLint.Output

open Text

/-- The blanks around a document do not stop the reader of its kind: those that it leaves to the
reader of JSON are spaces between tokens. -/
structure PassesPadding (kind : CommandKind) (cs : List Char) : Prop where
  /-- The reader of dumps leaves the blanks in front to the reader of JSON. -/
  front : kind = .dumpPackage → Json.IsSpaces (leadingBlanks cs)
  /-- The readers of dumps and of graphs leave the blanks behind to it. -/
  back : kind = .dumpPackage ∨ kind = .showDependencies → Json.IsSpaces (trailingBlanks cs)

/-- An analysis has an issue that says that the output is no document. -/
def SaysInvalidJson (outcome : Except ShapeFault Analysis) : Prop :=
  ∃ analysis, outcome = .ok analysis ∧
    ∃ issue ∈ analysis.issues, "Invalid JSON".toList <+: issue.message.toList

/-! ## Issues of documents -/

/-- Whether the output is called no document does not depend on its being kept. -/
theorem saysInvalidJson_map_withoutRaw_iff {outcome : Except ShapeFault Analysis} :
    SaysInvalidJson (outcome.map Analysis.withoutRaw) ↔ SaysInvalidJson outcome := by
  cases outcome with
  | error fault =>
    constructor
    · rintro ⟨_, ⟨⟩, -⟩
    · rintro ⟨_, ⟨⟩, -⟩
  | ok analysis =>
    constructor
    · rintro ⟨_, ⟨⟩, hissue⟩
      exact ⟨analysis, rfl, hissue⟩
    · rintro ⟨_, ⟨⟩, hissue⟩
      exact ⟨analysis.withoutRaw, rfl, hissue⟩

/-- Keeping the output does not change the rest of its analysis. -/
theorem map_withoutRaw_read (text : String) (filter : Option String) (keepRaw : Bool) :
    (read text filter keepRaw none).map Analysis.withoutRaw =
      (readAs (detectKind text) text filter).map Analysis.withoutRaw := by
  rw [read, Option.getD_none]
  cases readAs (detectKind text) text filter with
  | error fault => rfl
  | ok analysis => cases keepRaw <;> rfl

/-- An output is called no document exactly if the reader of its kind does so. -/
theorem saysInvalidJson_read_iff {text : String} {filter : Option String} {keepRaw : Bool} :
    SaysInvalidJson (read text filter keepRaw none) ↔
      SaysInvalidJson (readAs (detectKind text) text filter) := by
  rw [← saysInvalidJson_map_withoutRaw_iff, map_withoutRaw_read, saysInvalidJson_map_withoutRaw_iff]

/-- No issue of a dump that was read says that there is none. -/
theorem PackageDump.not_saysInvalidJson_analysis (outcome : Except ShapeFault PackageDump)
    (filter : Option String) : ¬ SaysInvalidJson (outcome.map (·.analysis filter)) := by
  rintro ⟨_, hok, issue, hissue, hmessage⟩
  obtain ⟨dump, -, rfl⟩ := map_eq_ok_iff.1 hok
  cases filter with
  | some target => cases hissue
  | none =>
    change issue ∈ dump.issues at hissue
    rw [issues] at hissue
    split_ifs at hissue
    · obtain rfl := List.mem_singleton.1 hissue
      simp at hmessage
    · obtain rfl := List.mem_singleton.1 hissue
      simp [toString, String.toList_append] at hmessage
    · cases hissue

/-- No issue of a graph that was read says that there is none. -/
theorem not_saysInvalidJson_summary (outcome : Except ShapeFault GraphSummary)
    (name : Option String) : ¬ SaysInvalidJson (outcome.map (·.analysis name)) := by
  rintro ⟨_, hok, issue, hissue, hmessage⟩
  obtain ⟨summary, -, rfl⟩ := map_eq_ok_iff.1 hok
  rw [GraphSummary.analysis] at hissue
  simp only at hissue
  split_ifs at hissue
  · obtain rfl := List.mem_singleton.1 hissue
    simp [circularIssue] at hmessage
  · cases hissue

/-- The issues of a lock file are about its pins: one that is no document gives no pins and no
issue. -/
theorem not_saysInvalidJson_readResolved (text : String) :
    ¬ SaysInvalidJson (.ok (readResolved text)) := by
  rintro ⟨_, ⟨⟩, issue, hissue, hmessage⟩
  rw [readResolved, PinListing.issues_ofItems] at hissue
  obtain ⟨pin, -, hpin⟩ := List.mem_filterMap.1 hissue
  rw [pinIssue?] at hpin
  split_ifs at hpin
  cases hpin
  simp [toString, String.toList_append] at hmessage

/-- An analysis with a single issue says what the message of this issue says. -/
theorem saysInvalidJson_of_message {analysis : Analysis} {issue : Issue}
    (h : analysis.issues = [issue]) (hmessage : "Invalid JSON".toList <+: issue.message.toList) :
    SaysInvalidJson (.ok analysis) :=
  ⟨analysis, rfl, issue, h ▸ List.mem_singleton.2 rfl, hmessage⟩

/-! ## Readings of documents -/

/-- The characters of a trimmed text are the trimmed characters. -/
theorem toList_trimmed (text : String) : (trimmed text).toList = trim text.toList :=
  String.toList_ofList

/-- Detection looks at the trimmed text, so it sees the same document in it. -/
theorem bracedDocument?_trimmed (text : String) :
    bracedDocument? (trimmed text) = bracedDocument? text := by
  rw [bracedDocument?, bracedDocument?, toList_trimmed, trim_trim]

section Document

variable {text : String} {entries : Table}

/-- The text of a document is the document between blanks. -/
theorem exists_eq_braced (h : bracedDocument? text = some (.table entries)) : ∃ tail,
    trim text.toList = '\x7b' :: tail ∧ Json.read? ('\x7b' :: tail) = some (.table entries) := by
  rw [bracedDocument?] at h
  split at h
  case h_1 tail htrim => exact ⟨tail, htrim, h⟩
  case h_2 => cases h

/-- The kind of an output that holds a document is that of the document. -/
theorem detectKind_of_bracedDocument? (h : bracedDocument? text = some (.table entries)) :
    detectKind text = documentKind entries := by
  rw [detectKind, h]

/-- A document is read as a graph behind the blanks in front of it, since it begins with a brace. -/
theorem readGraph_of_bracedDocument? (h : bracedDocument? text = some (.table entries)) :
    readGraph text = readGraphDocument (trimStart text.toList) := by
  obtain ⟨tail, htrim, -⟩ := exists_eq_braced h
  have hstart : trimStart text.toList = '\x7b' :: (tail ++ trailingBlanks text.toList) := by
    rw [← trim_append_trailingBlanks, htrim, List.cons_append]
  have hbrace : startsWithBrace text = true := by
    rw [startsWithBrace, hstart]
    exact decide_eq_true rfl
  rw [readGraph, if_pos hbrace]

/-- Behind a graph there may be spaces. -/
theorem readGraphDocument_of_isSpaces (h : bracedDocument? text = some (.table entries))
    (hback : Json.IsSpaces (trailingBlanks text.toList)) :
    readGraphDocument (trimStart text.toList) =
      (DependencyTree.ofTable entries).summary.map
        (·.analysis (Table.get entries "name").text?) := by
  obtain ⟨tail, htrim, hread⟩ := exists_eq_braced h
  have hnone : Json.IsSpaces [] := nofun
  have hdocument := Json.read_of_isSpaces hread hnone hback
  rw [List.nil_append, ← htrim, trim_append_trailingBlanks] at hdocument
  rw [readGraphDocument, hdocument]

/-- Around a dump there may be spaces. -/
theorem readDump_of_isSpaces (h : bracedDocument? text = some (.table entries))
    (hfront : Json.IsSpaces (leadingBlanks text.toList))
    (hback : Json.IsSpaces (trailingBlanks text.toList)) (filter : Option String) :
    PackageDump.read text filter = (PackageDump.ofTable entries).map (·.analysis filter) := by
  obtain ⟨tail, htrim, hread⟩ := exists_eq_braced h
  have hdocument := Json.read_of_isSpaces hread hfront hback
  rw [← htrim, leadingBlanks_append_trim] at hdocument
  rw [PackageDump.read, hdocument]

/-- Other blanks behind a document are more data to the reader of JSON. -/
theorem saysInvalidJson_readGraph (h : bracedDocument? text = some (.table entries))
    (hback : ¬ Json.IsSpaces (trailingBlanks text.toList)) :
    SaysInvalidJson (readGraph text) := by
  obtain ⟨tail, htrim, hread⟩ := exists_eq_braced h
  have hnone : Json.IsSpaces [] := nofun
  obtain ⟨failure, hfailure, -⟩ := Json.flaw_of_not_isSpaces_back hread hnone hback
  rw [List.nil_append, ← htrim, trim_append_trailingBlanks] at hfailure
  rw [readGraph_of_bracedDocument? h, readGraphDocument, hfailure]
  exact saysInvalidJson_of_message rfl (by simp [toString, String.toList_append])

/-- Other blanks around a dump are more data behind it, or no value in front of it. -/
theorem saysInvalidJson_readDump (h : bracedDocument? text = some (.table entries))
    (hblanks : ¬ (Json.IsSpaces (leadingBlanks text.toList) ∧
      Json.IsSpaces (trailingBlanks text.toList))) (filter : Option String) :
    SaysInvalidJson (PackageDump.read text filter) := by
  obtain ⟨tail, htrim, hread⟩ := exists_eq_braced h
  obtain ⟨failure, hfailure⟩ : ∃ failure, Json.read text.toList = .error failure := by
    rw [← leadingBlanks_append_trim text.toList, htrim]
    -- If the blanks in front are spaces, those behind are not.
    by_cases hfront : Json.IsSpaces (leadingBlanks text.toList)
    · obtain ⟨failure, hfailure, -⟩ :=
        Json.flaw_of_not_isSpaces_back hread hfront fun hback => hblanks ⟨hfront, hback⟩
      exact ⟨failure, hfailure⟩
    · rw [List.append_assoc]
      obtain ⟨failure, hfailure, -⟩ :=
        Json.flaw_of_not_isSpaces_front (fun _ => isBlank_of_mem_leadingBlanks) hfront
          ('\x7b' :: tail ++ trailingBlanks text.toList)
      exact ⟨failure, hfailure⟩
  rw [PackageDump.read, hfailure]
  exact saysInvalidJson_of_message rfl (by simp [toString, String.toList_append])

/-- A document is a lock file, a graph or a dump. -/
theorem documentKind_cases (entries : Table) : documentKind entries = .resolved ∨
    documentKind entries = .showDependencies ∨ documentKind entries = .dumpPackage := by
  rw [documentKind]
  split_ifs
  · exact .inl rfl
  · exact .inr (.inl rfl)
  · exact .inr (.inr rfl)

/-- A trimmed text has no blanks around it, and so its reader passes them. -/
theorem passesPadding_trimmed (kind : CommandKind) (text : String) :
    PassesPadding kind (trimmed text).toList := by
  have hfront : Json.IsSpaces (leadingBlanks (trimmed text).toList) := by
    rw [toList_trimmed, leadingBlanks_trim]
    exact nofun
  have hback : Json.IsSpaces (trailingBlanks (trimmed text).toList) := by
    rw [toList_trimmed, trailingBlanks_trim]
    exact nofun
  exact ⟨fun _ => hfront, fun _ => hback⟩

/-- A document among blanks that its reader passes is read as it is without them. -/
theorem readAs_eq_of_passesPadding (h : bracedDocument? text = some (.table entries))
    (hblanks : PassesPadding (documentKind entries) text.toList) (filter : Option String) :
    readAs (documentKind entries) text filter =
      readAs (documentKind entries) (trimmed text) filter := by
  have h' : bracedDocument? (trimmed text) = some (.table entries) :=
    (bracedDocument?_trimmed text).trans h
  have hblanks' := passesPadding_trimmed (documentKind entries) text
  obtain hkind | hkind | hkind := documentKind_cases entries <;> rw [hkind] at hblanks hblanks' ⊢
  · rw [readAs, readAs, readResolved, readResolved, bracedDocument?_trimmed]
  · rw [readAs, readAs, readGraph_of_bracedDocument? h, readGraph_of_bracedDocument? h',
      readGraphDocument_of_isSpaces h (hblanks.back (.inr rfl)),
      readGraphDocument_of_isSpaces h' (hblanks'.back (.inr rfl))]
  · rw [readAs, readAs, readDump_of_isSpaces h (hblanks.front rfl) (hblanks.back (.inl rfl)),
      readDump_of_isSpaces h' (hblanks'.front rfl) (hblanks'.back (.inl rfl))]

/-- A document among blanks that its reader passes is not called invalid. -/
theorem not_saysInvalidJson_of_passesPadding (h : bracedDocument? text = some (.table entries))
    (hblanks : PassesPadding (documentKind entries) text.toList) (filter : Option String) :
    ¬ SaysInvalidJson (readAs (documentKind entries) text filter) := by
  obtain hkind | hkind | hkind := documentKind_cases entries <;> rw [hkind] at hblanks ⊢
  · exact not_saysInvalidJson_readResolved text
  · rw [readAs, readGraph_of_bracedDocument? h,
      readGraphDocument_of_isSpaces h (hblanks.back (.inr rfl))]
    exact not_saysInvalidJson_summary _ _
  · rw [readAs, readDump_of_isSpaces h (hblanks.front rfl) (hblanks.back (.inl rfl))]
    exact PackageDump.not_saysInvalidJson_analysis _ _

/-- A document among blanks that its reader does not pass is called invalid, though it has been
detected. -/
theorem saysInvalidJson_of_not_passesPadding (h : bracedDocument? text = some (.table entries))
    (hblanks : ¬ PassesPadding (documentKind entries) text.toList) (filter : Option String) :
    SaysInvalidJson (readAs (documentKind entries) text filter) := by
  obtain hkind | hkind | hkind := documentKind_cases entries <;> rw [hkind] at hblanks ⊢
  · exact absurd ⟨nofun, nofun⟩ hblanks
  · exact saysInvalidJson_readGraph h fun hback => hblanks ⟨nofun, fun _ => hback⟩
  · exact saysInvalidJson_readDump h (fun hspaces => hblanks ⟨fun _ => hspaces.1,
      fun _ => hspaces.2⟩) filter

/-- Detection and reading see the same document exactly if the blanks around it do not stop the
reader of its kind. The kind is that of the text without blanks around it; no issue says that there
is no document exactly if the reader passes the blanks; and exactly then the analysis is, without
the output itself, that of the text without them. -/
theorem reads_detected_document_iff (h : bracedDocument? text = some (.table entries))
    (filter : Option String) (keepRaw : Bool) :
    detectKind (trimmed text) = detectKind text ∧
    (¬ SaysInvalidJson (read text filter keepRaw none) ↔
      PassesPadding (detectKind text) text.toList) ∧
    ((read text filter keepRaw none).map Analysis.withoutRaw =
        (read (trimmed text) filter keepRaw none).map Analysis.withoutRaw ↔
      PassesPadding (detectKind text) text.toList) := by
  have h' : bracedDocument? (trimmed text) = some (.table entries) :=
    (bracedDocument?_trimmed text).trans h
  have hkind := detectKind_of_bracedDocument? h
  have hkind' := detectKind_of_bracedDocument? h'
  have hreports : ¬ SaysInvalidJson (read text filter keepRaw none) ↔
      PassesPadding (documentKind entries) text.toList := by
    rw [saysInvalidJson_read_iff, hkind]
    refine ⟨fun hreports => ?_, fun hblanks => not_saysInvalidJson_of_passesPadding h hblanks filter⟩
    by_contra hblanks
    exact hreports (saysInvalidJson_of_not_passesPadding h hblanks filter)
  -- Trimming leaves no blanks, so that text is always read as the document it is.
  have hreports' : ¬ SaysInvalidJson (read (trimmed text) filter keepRaw none) := by
    rw [saysInvalidJson_read_iff, hkind']
    exact not_saysInvalidJson_of_passesPadding h' (passesPadding_trimmed _ text) filter
  rw [hkind, hkind']
  refine ⟨rfl, hreports, fun hsame => hreports.1 ?_, fun hblanks => ?_⟩
  -- Analyses that are the same say the same of the text.
  · rwa [← saysInvalidJson_map_withoutRaw_iff, hsame, saysInvalidJson_map_withoutRaw_iff]
  · rw [map_withoutRaw_read, map_withoutRaw_read, hkind, hkind',
      readAs_eq_of_passesPadding h hblanks filter]

end Document

/-- A graph behind a blank that is no space between tokens, and in front of a line end. -/
def paddedGraph : String := "\u00a0\x7b\"identity\": \"app\", \"dependencies\": []\x7d\n"

/-- The blank is left away in front of the graph, and the line end is a space between tokens. -/
theorem reads_detected_document_paddedGraph :
    ¬ SaysInvalidJson (read paddedGraph none true none) ∧
      (read paddedGraph none true none).map Analysis.withoutRaw =
        (read (trimmed paddedGraph) none true none).map Analysis.withoutRaw := by
  have hdocument : bracedDocument? paddedGraph =
      some (.table [(.text "identity", .text "app"), (.text "dependencies", .list [])]) := by cbv
  have hblanks : PassesPadding (detectKind paddedGraph) paddedGraph.toList := by
    have hkind : detectKind paddedGraph = .showDependencies := by cbv
    have hback : trailingBlanks paddedGraph.toList = ['\n'] := by cbv
    rw [hkind]
    refine ⟨fun hdump => ?_, fun _ => hback ▸ by decide⟩
    cases hdump
  obtain ⟨-, hreports, hsame⟩ := reads_detected_document_iff hdocument none true
  exact ⟨hreports.2 hblanks, hsame.2 hblanks⟩

/-- A dump in front of a blank that is no space between tokens. -/
def paddedDump : String :=
  "\x7b\"name\": \"App\", \"targets\": [\x7b\"name\": \"App\"\x7d]\x7d\u00a0"

/-- The kind of the dump is told from its document, and its reader says that there is none. -/
theorem saysInvalidJson_paddedDump :
    (∃ entries, bracedDocument? paddedDump = some (.table entries)) ∧
      SaysInvalidJson (read paddedDump none false none) ∧
      (read paddedDump none false none).map Analysis.withoutRaw ≠
        (read (trimmed paddedDump) none false none).map Analysis.withoutRaw := by
  have hdocument : bracedDocument? paddedDump = some (.table [(.text "name", .text "App"),
      (.text "targets", .list [.table [(.text "name", .text "App")]])]) := by cbv
  have hread : read paddedDump none false none =
      .ok (PackageDump.unreadable "Invalid JSON in dump-package output: Extra data") := by cbv
  have hsuccess : (read (trimmed paddedDump) none false none).map Analysis.success = .ok true := by
    cbv
  refine ⟨⟨_, hdocument⟩, ?_, fun hsame => ?_⟩
  · rw [hread]
    exact saysInvalidJson_of_message rfl (by simp)
  · obtain ⟨analysis, hanalysis, htrue⟩ := map_eq_ok_iff.1 hsuccess
    rw [hread, hanalysis] at hsame
    have hfalse : false = analysis.success := congrArg Analysis.success (Except.ok.inj hsame)
    rw [htrue] at hfalse
    cases hfalse

end PackageLint.Output
