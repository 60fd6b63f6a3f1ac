import Mathlib
import PackageLint.Config.RuleFile
import PackageLint.Proofs.Number.Range
import PackageLint.Proofs.Outcome

/-!
# What loading a file promises

A configuration file and a file of rules are loaded alike: the bytes are decoded, the text is read
as a document, and settings or rule tables are built from the entries of a table. What is promised
is that this ends in one of two ways. An empty document and a table are loaded, and anything else is
a failure of the configuration.

The promise is not kept for all bytes. Bytes that are no text fail in a way of their own, a document
that counts as absent is taken for an empty one, whatever it is, and a table can hold a number or a
pattern that nothing can be built from. `IsHarmless` says that the bytes hold none of these.

## Main definitions

* `KeepsPromise`: loading some bytes ends as promised;
* `IsHarmless`: nothing in the bytes stands against that;
* `Loads`: the ways in which loading goes on.

## Main results

* `Loads.keepsPromise_iff`: for any loader the promise is kept exactly for harmless bytes;
* `Config.exists_ofTable_eq_ok_iff`, `RuleTables.exists_build_eq_ok_iff`: the tables from which
  something can be built;
* `keepsPromise_load_iff`: when the two loaders keep their promise, and how else they fail.
-/

namespace PackageLint

variable {α : Type} {read : List Char → Except Yaml.Failure Value} {bytes : List UInt8}
  {make : Table → Except Failure α} {result : Except Failure α}

/-! ## The promise -/

/-- The bytes are the text of a document that is empty or a table. -/
def HoldsTable (read : List Char → Except Yaml.Failure Value) (bytes : List UInt8) : Prop :=
  ∃ text v, Text.decodeUtf8 bytes = .ok text ∧ read (Text.normalizeNewlines text) = .ok v ∧
    (v = .null ∨ ∃ entries, v = .table entries)

/-- Loading the bytes gives a result if they hold an empty document or a table, and else fails as a
wrong configuration does. -/
structure KeepsPromise (read : List Char → Except Yaml.Failure Value) (bytes : List UInt8)
    (result : Except Failure α) : Prop where
  returns : HoldsTable read bytes → ∃ a, result = .ok a
  rejects : ¬ HoldsTable read bytes → ∃ failure, result = .error (.config failure)

/-- The bytes are a text; a document of any other kind than those that are loaded counts as present,
and a table is one that something can be built from. -/
def IsHarmless (read : List Char → Except Yaml.Failure Value) (isLoadable : Table → Prop)
    (bytes : List UInt8) : Prop :=
  ∃ text, Text.decodeUtf8 bytes = .ok text ∧
    match read (Text.normalizeNewlines text) with
    | .ok (.table entries) => isLoadable entries
    | .ok v => v = .null ∨ v.isPresent = true
    | .error failure => ∃ flaw, failure = .malformed flaw

/-! ## Loading -/

/-- How loading some bytes ends, for a reader of documents and a way to make something of a
table. -/
inductive Loads (read : List Char → Except Yaml.Failure Value) (make : Table → Except Failure α)
    (bytes : List UInt8) : Except Failure α → Prop
  /-- The bytes are no text. -/
  | undecodable {failure : Text.Utf8Failure} (hdecode : Text.decodeUtf8 bytes = .error failure) :
    Loads read make bytes (.error (.undecodable failure))
  /-- The text is no document. -/
  | malformed {text : List Char} {flaw : Yaml.Flaw} (hdecode : Text.decodeUtf8 bytes = .ok text)
    (hread : read (Text.normalizeNewlines text) = .error (.malformed flaw))
    (failure : ConfigFailure) : Loads read make bytes (.error (.config failure))
  /-- A value in the text has no meaning. -/
  | unread {text : List Char} {failure : Yaml.Failure} (hdecode : Text.decodeUtf8 bytes = .ok text)
    (hread : read (Text.normalizeNewlines text) = .error failure)
    (hfailure : ∀ flaw, failure ≠ .malformed flaw) :
    Loads read make bytes (.error (.value failure))
  /-- The document counts as present and is no table. -/
  | noTable {text : List Char} {v : Value} (hdecode : Text.decodeUtf8 bytes = .ok text)
    (hread : read (Text.normalizeNewlines text) = .ok v) (hpresent : v.isPresent = true)
    (hv : ∀ entries, v ≠ .table entries) (failure : ConfigFailure) :
    Loads read make bytes (.error (.config failure))
  /-- The document is a table, or taken for one because it counts as absent. -/
  | built {text : List Char} {v : Value} {entries : Table}
    (hdecode : Text.decodeUtf8 bytes = .ok text)
    (hread : read (Text.normalizeNewlines text) = .ok v)
    (hentries : v.orElse (.table []) = .table entries) : Loads read make bytes (make entries)

/-- What is taken for a table is one, or counts as absent and is taken for an empty one. -/
theorem Value.eq_table_of_orElse {v : Value} {entries : Table}
    (h : v.orElse (.table []) = .table entries) :
    v = .table entries ∨ (v.isPresent = false ∧ entries = []) := by
  rw [Value.orElse] at h
  split at h
  · exact .inl h
  · rename_i habsent
    exact .inr ⟨by simpa using habsent, (Value.table.inj h).symm⟩

/-- What is not taken for a table counts as present and is none. -/
theorem Value.isPresent_of_orElse {v w : Value} (h : v.orElse (.table []) = w)
    (hw : ∀ entries, w ≠ .table entries) :
    v.isPresent = true ∧ ∀ entries, v ≠ .table entries := by
  rw [Value.orElse] at h
  split at h
  · rename_i hpresent
    exact ⟨hpresent, h ▸ hw⟩
  · exact absurd h.symm (hw [])

/-- What holds a table or nothing has to be loaded. -/
theorem keepsPromise_iff_of_holdsTable (h : HoldsTable read bytes) :
    KeepsPromise read bytes result ↔ ∃ a, result = .ok a :=
  ⟨fun hkeeps => hkeeps.returns h, fun hok => ⟨fun _ => hok, fun hnot => absurd h hnot⟩⟩

/-- Anything else has to be rejected, as a wrong configuration is. -/
theorem keepsPromise_iff_of_not_holdsTable (h : ¬ HoldsTable read bytes) :
    KeepsPromise read bytes result ↔ ∃ failure, result = .error (.config failure) :=
  ⟨fun hkeeps => hkeeps.rejects h, fun herror => ⟨fun hholds => absurd hholds h, fun _ => herror⟩⟩

/-- Whether a document is one that is promised to be loaded. -/
theorem holdsTable_iff {text : List Char} {v : Value} (hdecode : Text.decodeUtf8 bytes = .ok text)
    (hread : read (Text.normalizeNewlines text) = .ok v) :
    HoldsTable read bytes ↔ v = .null ∨ ∃ entries, v = .table entries := by
  simp [HoldsTable, hdecode, hread]

/-- Whether a document that is no table stands against the promise. -/
theorem isHarmless_iff_of_ne_table {isLoadable : Table → Prop} {text : List Char} {v : Value}
    (hdecode : Text.decodeUtf8 bytes = .ok text)
    (hread : read (Text.normalizeNewlines text) = .ok v) (hv : ∀ entries, v ≠ .table entries) :
    IsHarmless read isLoadable bytes ↔ v = .null ∨ v.isPresent = true := by
  cases v with
  | table entries => exact absurd rfl (hv entries)
  | scalar s => simp [IsHarmless, hdecode, hread]
  | list items => simp [IsHarmless, hdecode, hread]

/-- Every loader keeps its promise exactly for the bytes that are harmless. -/
theorem Loads.keepsPromise_iff {isLoadable : Table → Prop} (h : Loads read make bytes result)
    (hnil : ∃ a, make [] = .ok a)
    (hloadable : ∀ entries, (∃ a, make entries = .ok a) ↔ isLoadable entries) :
    KeepsPromise read bytes result ↔ IsHarmless read isLoadable bytes := by
  -- What is promised depends on the document, so each case says first whether one is held.
  cases h with
  | undecodable hdecode =>
    have hnot : ¬ HoldsTable read bytes := by simp [HoldsTable, hdecode]
    rw [keepsPromise_iff_of_not_holdsTable hnot]
    simp [IsHarmless, hdecode]
  | malformed hdecode hread failure =>
    have hnot : ¬ HoldsTable read bytes := by simp [HoldsTable, hdecode, hread]
    rw [keepsPromise_iff_of_not_holdsTable hnot]
    simp [IsHarmless, hdecode, hread]
  | unread hdecode hread hfailure =>
    have hnot : ¬ HoldsTable read bytes := by simp [HoldsTable, hdecode, hread]
    rw [keepsPromise_iff_of_not_holdsTable hnot]
    simp [IsHarmless, hdecode, hread, hfailure]
  | noTable hdecode hread hpresent hv failure =>
    have hnull : ∀ v : Value, v.isPresent = true → v ≠ .null := by rintro v hv rfl; cases hv
    have hnot : ¬ HoldsTable read bytes := by
      rw [holdsTable_iff hdecode hread]
      rintro (h | ⟨entries, h⟩)
      · exact hnull _ hpresent h
      · exact hv entries h
    rw [keepsPromise_iff_of_not_holdsTable hnot, isHarmless_iff_of_ne_table hdecode hread hv]
    simp [hpresent]
  | @built text v entries hdecode hread hentries =>
    by_cases hv : v = .table entries
    · subst hv
      have hholds : HoldsTable read bytes := (holdsTable_iff hdecode hread).2 (.inr ⟨_, rfl⟩)
      rw [keepsPromise_iff_of_holdsTable hholds, hloadable]
      simp [IsHarmless, hdecode, hread]
    · -- A document that is no table is taken for an empty one.
      obtain ⟨habsent, rfl⟩ := (Value.eq_table_of_orElse hentries).resolve_left hv
      have hne : ∀ entries, v ≠ .table entries := by
        rintro entries rfl
        cases entries with
        | nil => exact hv rfl
        | cons entry rest => cases habsent
      obtain ⟨a, hbuild⟩ := hnil
      rw [isHarmless_iff_of_ne_table hdecode hread hne]
      by_cases hnull : v = .null
      · have hholds : HoldsTable read bytes := (holdsTable_iff hdecode hread).2 (.inl hnull)
        rw [keepsPromise_iff_of_holdsTable hholds]
        simp [hbuild, hnull]
      · have hnot : ¬ HoldsTable read bytes := by simp [holdsTable_iff hdecode hread, hnull, hne]
        rw [keepsPromise_iff_of_not_holdsTable hnot]
        simp [hbuild, hnull, habsent]

/-- Loading fails as a wrong configuration does, because the bytes are no text or hold a value
without a meaning, or because nothing can be built from the table. -/
theorem Loads.failure_cases {failure : Failure} (h : Loads read make bytes result)
    (hresult : result = .error failure) :
    (∃ inner, failure = .config inner) ∨ (∃ inner, failure = .undecodable inner) ∨
      (∃ inner, failure = .value inner) ∨ ∃ entries, make entries = .error failure := by
  cases h with
  | undecodable => cases hresult; exact .inr (.inl ⟨_, rfl⟩)
  | malformed => cases hresult; exact .inl ⟨_, rfl⟩
  | unread => cases hresult; exact .inr (.inr (.inl ⟨_, rfl⟩))
  | noTable => cases hresult; exact .inl ⟨_, rfl⟩
  | built => exact .inr (.inr (.inr ⟨_, hresult⟩))

/-! ## Reading a text -/

namespace Disk

variable {disk : Disk} {file : Path}

/-- A file that can be read is there. -/
theorem has_of_readBytes (h : disk.readBytes file = .ok bytes) : disk.has file = true := by
  revert h
  rw [readBytes, has]
  cases disk.find file <;> simp [Except.isOk, Except.toBool]

/-- Bytes that are no text fail as such, before any document is looked for. -/
theorem readText_of_undecodable (h : disk.readBytes file = .ok bytes) {failure : Text.Utf8Failure}
    (hdecode : Text.decodeUtf8 bytes = .error failure) :
    disk.readText file = .error (.undecodable failure) := by
  rw [readText, h]
  simp [hdecode]

/-- The text of a file has line feeds for all of its line ends. -/
theorem readText_of_decoded (h : disk.readBytes file = .ok bytes) {text : List Char}
    (hdecode : Text.decodeUtf8 bytes = .ok text) :
    disk.readText file = .ok (Text.normalizeNewlines text) := by
  rw [readText, h]
  simp [hdecode]

end Disk

/-! ## Settings -/

namespace Config

/-- A reader of documents that takes a blank text for an empty document. -/
def blankOr (read : List Char → Except Yaml.Failure Value) (text : List Char) :
    Except Yaml.Failure Value :=
  if Text.isAllBlank text then .ok .null else read text

/-- The time limit of a table is a whole number that is too large. -/
def IsTimeoutTooLarge (entries : Table) : Prop :=
  ∃ n : Int, Table.get (section? entries "toolchain") "timeout" = .int n ∧
    (2 ^ 54 - 1) * 2 ^ 970 ≤ n.natAbs

/-- A number of seconds is read, unless it is a whole number that is too large. -/
theorem exists_seconds?_eq_ok_iff (v : Value) :
    (∃ x, seconds? v = .ok x) ↔ ¬ ∃ n : Int, v = .int n ∧ (2 ^ 54 - 1) * 2 ^ 970 ≤ n.natAbs := by
  simp only [← Binary64.exists_ofInt_eq_infinite_iff]
  fun_cases seconds? v with
  | case1 n sign heq => simp [heq]
  | case2 n hfinite => simpa using hfinite
  | case3 | case4 | case5 => simp_all

/-- Settings are built from a table, unless its time limit is too large. -/
theorem exists_ofTable_eq_ok_iff (root : Path) (entries : Table) :
    (∃ config, ofTable root entries = .ok config) ↔ ¬ IsTimeoutTooLarge entries := by
  rw [ofTable, exists_bind_eq_ok_iff, IsTimeoutTooLarge, ← exists_seconds?_eq_ok_iff]
  exact exists_congr fun x => and_iff_left exists_pure_eq_ok

/-- Nothing else stands in the way of settings. -/
theorem eq_tooLarge_of_ofTable {root : Path} {entries : Table} {failure : Failure}
    (h : ofTable root entries = .error failure) : failure = .tooLarge := by
  rw [ofTable] at h
  cases hseconds : seconds? (Table.get (section? entries "toolchain") "timeout") with
  | ok timeout => rw [hseconds] at h; cases h
  | error inner =>
    rw [hseconds] at h
    obtain rfl : inner = failure := Except.error.inj h
    revert hseconds
    fun_cases seconds? (Table.get (section? entries "toolchain") "timeout") <;> simp_all

/-- A configuration file is loaded; a blank one is an empty document. -/
theorem loads (read : List Char → Except Yaml.Failure Value) {disk : Disk} {path : Path}
    (executable : Option String) (h : disk.readBytes (fileOf disk path) = .ok bytes) :
    Loads (blankOr read)
      (fun entries => (ofTable (disk.resolve (fileOf disk path).parent) entries).map
        (·.withExecutable executable))
      bytes (loadWith read disk executable path) := by
  rw [loadWith, readFile, if_pos (Disk.has_of_readBytes h), readDocument]
  cases hdecode : Text.decodeUtf8 bytes with
  | error failure =>
    rw [Disk.readText_of_undecodable h hdecode]
    exact .undecodable hdecode
  | ok text =>
    rw [Disk.readText_of_decoded h hdecode]
    -- A blank text is an empty document before any reader sees it.
    by_cases hblank : Text.isAllBlank (Text.normalizeNewlines text) = true
    · have hread : blankOr read (Text.normalizeNewlines text) = .ok .null := if_pos hblank
      simp only [if_pos hblank]
      exact .built hdecode hread rfl
    · have hread : blankOr read (Text.normalizeNewlines text) =
          read (Text.normalizeNewlines text) := if_neg hblank
      simp only [if_neg hblank]
      cases hdocument : read (Text.normalizeNewlines text) with
      | error failure =>
        rw [hdocument] at hread
        cases failure with
        | malformed flaw => exact .malformed hdecode hread _
        | _ => exact .unread hdecode hread nofun
      | ok v =>
        rw [hdocument] at hread
        cases hroot : v.orElse (.table []) with
        | table entries => simpa only [hroot] using .built hdecode hread hroot
        | _ =>
          obtain ⟨hpresent, hv⟩ := Value.isPresent_of_orElse hroot nofun
          simpa only [hroot] using .noTable hdecode hread hpresent hv _

end Config

/-! ## Rules -/

/-- A text cannot be read as a pattern, for a fault that ends the reading of a file of rules. -/
def Pattern.Stops (fault? : String → Option Pattern.Fault) (s : String) (failure : Failure) :
    Prop :=
  ∃ fault, fault? s = some fault ∧ fault.isFatal = true ∧ failure = .pattern fault

variable {fault? : String → Option Pattern.Fault} {failure : Failure}

/-- A fault gives a failure if it is fatal. -/
theorem Pattern.Fault.remark_eq_error_iff {fault : Pattern.Fault} {text : String} :
    fault.remark text = .error failure ↔ fault.isFatal = true ∧ failure = .pattern fault := by
  rw [remark]
  cases fault.isFatal <;> simp [eq_comm]

namespace Rule

/-- The text that is read as a pattern for an entry. -/
def patternText? (v : Value) : Option String :=
  v.table?.bind fun entry => (essentials? entry).map (·.1)

/-- The texts that are read as patterns for the entries of a list. -/
def patternTexts (v : Value) : List String := v.items.filterMap patternText?

/-- Only the pattern of an entry can give a failure. -/
theorem remark?_eq_some_error_iff {kind : RuleKind} {v : Value} :
    remark? fault? kind v = some (.error failure) ↔
      ∃ s, patternText? v = some s ∧ Pattern.Stops fault? s failure := by
  cases v with
  | table entry =>
    cases hentry : essentials? entry with
    | none => simp [remark?, patternText?, Value.table?, hentry]
    | some found =>
      simp [remark?, patternText?, Value.table?, hentry, Pattern.Stops,
        Pattern.Fault.remark_eq_error_iff]
  | _ => simp [remark?, patternText?, Value.table?]

/-- A list of rules fails to be read on the pattern of an entry that has all it needs. -/
theorem error_mem_remarks_iff {kind : RuleKind} {v : Value} :
    .error failure ∈ remarks fault? kind v ↔
      ∃ s ∈ patternTexts v, Pattern.Stops fault? s failure := by
  simp only [remarks, patternTexts, List.mem_filterMap, remark?_eq_some_error_iff]
  exact ⟨fun ⟨v, hv, s, hs, h⟩ => ⟨s, ⟨v, hv, hs⟩, h⟩, fun ⟨s, ⟨v, hv, hs⟩, h⟩ => ⟨v, hv, s, hs, h⟩⟩

end Rule

namespace RuleTables

/-- The texts of a document of rules that are read as patterns. -/
def patternTexts (entries : Table) : List String :=
  Rule.patternTexts (Table.get entries "deprecated") ++
    Rule.patternTexts (Table.get entries "anti_patterns") ++
    Rule.patternTexts (Table.get entries "required") ++
    ((Table.get entries "contextual").items.flatMap fun gate =>
      Rule.patternTexts (Table.get (gate.table?.getD []) "rules")) ++
    (Table.get (Config.section? entries "composition") "component_pattern").nonemptyText?.toList

/-- A gate fails to be read on one of the patterns behind it. -/
theorem error_mem_gateRemarks_iff {gate : Value} :
    .error failure ∈ gateRemarks fault? gate ↔
      ∃ s ∈ Rule.patternTexts (Table.get (gate.table?.getD []) "rules"),
        Pattern.Stops fault? s failure := by
  cases gate with
  | table entries => exact Rule.error_mem_remarks_iff
  | _ => simp [gateRemarks, Value.table?, Rule.patternTexts, Value.items, Value.list?]

/-- A vocabulary fails to be read on its one pattern. -/
theorem patternRemark?_eq_some_error_iff {composition : Value} :
    patternRemark? fault? composition = some (.error failure) ↔
      ∃ s, (Table.get (composition.table?.getD []) "component_pattern").nonemptyText? = some s ∧
        Pattern.Stops fault? s failure := by
  cases composition with
  | table entries =>
    simp [patternRemark?, Value.table?, Option.bind_eq_some_iff, Pattern.Stops,
      Pattern.Fault.remark_eq_error_iff]
  | _ => simp [patternRemark?, Value.table?, Value.nonemptyText?]

/-- A document of rules gives a failure exactly for a text that stops the reading. -/
theorem error_mem_remarks_iff {entries : Table} :
    .error failure ∈ remarks fault? entries ↔
      ∃ s ∈ patternTexts entries, Pattern.Stops fault? s failure := by
  have hgates : (∃ s, (∃ gate ∈ (Table.get entries "contextual").items,
        s ∈ Rule.patternTexts (Table.get (gate.table?.getD []) "rules")) ∧
        Pattern.Stops fault? s failure) ↔
      ∃ gate ∈ (Table.get entries "contextual").items,
        ∃ s ∈ Rule.patternTexts (Table.get (gate.table?.getD []) "rules"),
          Pattern.Stops fault? s failure :=
    ⟨fun ⟨s, ⟨gate, hgate, hs⟩, h⟩ => ⟨gate, hgate, s, hs, h⟩,
      fun ⟨gate, hgate, s, hs, h⟩ => ⟨s, ⟨gate, hgate, hs⟩, h⟩⟩
  simp only [remarks, patternTexts, List.mem_append, Rule.error_mem_remarks_iff, List.mem_flatMap,
    error_mem_gateRemarks_iff, Option.mem_toList, patternRemark?_eq_some_error_iff, or_and_right,
    exists_or, hgates, Config.section?]

/-- What is said is logged to its end, or up to a failure that is met. -/
theorem logRemarks_cases (remarks : List (Except Failure String)) :
    ((logRemarks remarks).result = .ok () ∧ ∀ failure, .error failure ∉ remarks) ∨
      ∃ failure, (logRemarks remarks).result = .error failure ∧ .error failure ∈ remarks := by
  induction remarks with
  | nil => exact .inl ⟨rfl, nofun⟩
  | cons remark rest ih =>
    -- The first failure stops the run, so that only what stands before it is said.
    rw [logRemarks, Run.result_bind, Run.result_ofExcept]
    cases remark with
    | error failure => exact .inr ⟨failure, rfl, List.mem_cons_self⟩
    | ok text =>
      have hrest : (Run.log .warning text >>= fun _ => logRemarks rest).result =
          (logRemarks rest).result := Run.result_bind_of_ok rfl _
      rcases ih with ⟨hok, hnone⟩ | ⟨failure, herror, hmem⟩
      · exact .inl ⟨hrest.trans hok, by simpa using hnone⟩
      · exact .inr ⟨failure, hrest.trans herror, List.mem_cons_of_mem _ hmem⟩

/-- Tables are built from a document, unless one of its patterns stops the reading. -/
theorem exists_build_eq_ok_iff (entries : Table) :
    (∃ tables, (build fault? entries).result = .ok tables) ↔
      ∀ s ∈ patternTexts entries, ∀ fault ∈ fault? s, fault.isFatal = false := by
  have hstops (s : String) : (∀ fault ∈ fault? s, fault.isFatal = false) ↔
      ∀ failure, ¬ Pattern.Stops fault? s failure := by
    constructor
    · rintro h failure ⟨fault, hfault, hfatal, -⟩
      exact Bool.eq_false_iff.1 (h fault hfault) hfatal
    · intro h fault hfault
      exact Bool.eq_false_iff.2 fun hfatal => h _ ⟨fault, hfault, hfatal, rfl⟩
  rw [build, Run.result_bind]
  simp only [hstops]
  -- The remarks are gone through up to the first that stops them, if there is one.
  rcases logRemarks_cases (remarks fault? entries) with ⟨hok, hnone⟩ | ⟨failure, herror, hmem⟩
  · rw [hok]
    refine iff_of_true ⟨_, rfl⟩ fun s hs failure hstop => ?_
    exact hnone failure (error_mem_remarks_iff.2 ⟨s, hs, hstop⟩)
  · obtain ⟨s, hs, hstop⟩ := error_mem_remarks_iff.1 hmem
    rw [herror]
    refine iff_of_false ?_ fun h => h s hs failure hstop
    rintro ⟨tables, heq⟩
    cases heq

/-- Nothing else stands in the way of tables. -/
theorem exists_eq_pattern_of_build {entries : Table}
    (h : (build fault? entries).result = .error failure) : ∃ fault, failure = .pattern fault := by
  rw [build, Run.result_bind] at h
  rcases logRemarks_cases (remarks fault? entries) with ⟨hok, -⟩ | ⟨inner, herror, hmem⟩
  · rw [hok] at h
    cases h
  · rw [herror] at h
    obtain rfl : inner = failure := Except.error.inj h
    obtain ⟨s, -, fault, -, -, hfailure⟩ := error_mem_remarks_iff.1 hmem
    exact ⟨fault, hfailure⟩

/-- A file of rules is loaded. -/
theorem loads (read : List Char → Except Yaml.Failure Value)
    (fault? : String → Option Pattern.Fault) {disk : Disk} {file : Path}
    (h : disk.readBytes file = .ok bytes) :
    Loads read (fun entries => (build fault? entries).result) bytes
      (loadWith read fault? disk (some file)).result := by
  have hloaded : (loadWith read fault? disk (some file)).result =
      readTable read disk file >>= fun entries => (build fault? entries).result := by
    rw [loadWith, Run.result_bind, Run.result_ofExcept]
  rw [hloaded, readTable]
  cases hdecode : Text.decodeUtf8 bytes with
  | error failure =>
    rw [Disk.readText_of_undecodable h hdecode]
    exact .undecodable hdecode
  | ok text =>
    rw [Disk.readText_of_decoded h hdecode]
    cases hread : read (Text.normalizeNewlines text) with
    | error failure =>
      cases failure with
      | malformed flaw => simpa only [hread] using .malformed hdecode hread _
      | _ => simpa only [hread] using .unread hdecode hread nofun
    | ok v =>
      cases hroot : v.orElse (.table []) with
      | table entries => simpa only [hread, hroot] using .built hdecode hread hroot
      | _ =>
        obtain ⟨hpresent, hv⟩ := Value.isPresent_of_orElse hroot nofun
        simpa only [hread, hroot] using .noTable hdecode hread hpresent hv _

end RuleTables

/-! ## Both loaders -/

/-- Settings and rules are loaded as promised exactly from bytes that are harmless, where a blank
configuration file is an empty document. A table of settings is harmless unless its time limit is
too large, a table of rules unless one of its patterns stops the reading. A failure of another kind
than the promised one comes from bytes that are no text, from a value without a meaning, or from
what is not harmless in the table. -/
theorem keepsPromise_load_iff (read : List Char → Except Yaml.Failure Value)
    (fault? : String → Option Pattern.Fault) (executable : Option String) {disk : Disk}
    {path file : Path} {settings rules : List UInt8}
    (hsettings : disk.readBytes (Config.fileOf disk path) = .ok settings)
    (hrules : disk.readBytes file = .ok rules) :
    (KeepsPromise (Config.blankOr read) settings (Config.loadWith read disk executable path) ↔
        IsHarmless (Config.blankOr read) (fun entries => ¬ Config.IsTimeoutTooLarge entries)
          settings) ∧
      (KeepsPromise read rules (RuleTables.loadWith read fault? disk (some file)).result ↔
        IsHarmless read (fun entries => ∀ s ∈ RuleTables.patternTexts entries,
          ∀ fault ∈ fault? s, fault.isFatal = false) rules) ∧
      (∀ failure, Config.loadWith read disk executable path = .error failure →
        (∃ inner, failure = .config inner) ∨ (∃ inner, failure = .undecodable inner) ∨
          (∃ inner, failure = .value inner) ∨ failure = .tooLarge) ∧
      ∀ failure, (RuleTables.loadWith read fault? disk (some file)).result = .error failure →
        (∃ inner, failure = .config inner) ∨ (∃ inner, failure = .undecodable inner) ∨
          (∃ inner, failure = .value inner) ∨ ∃ fault, failure = .pattern fault := by
  -- Both loaders go through the same steps; they differ in what they build from a table.
  have hsettingsLoad := Config.loads read executable hsettings
  have hrulesLoad := RuleTables.loads read fault? hrules
  refine ⟨?_, ?_, fun failure herror => ?_, fun failure herror => ?_⟩
  · refine hsettingsLoad.keepsPromise_iff ⟨_, rfl⟩ fun entries => ?_
    rw [exists_map_eq_ok_iff, Config.exists_ofTable_eq_ok_iff]
  · exact hrulesLoad.keepsPromise_iff ⟨_, rfl⟩ RuleTables.exists_build_eq_ok_iff
  · refine (hsettingsLoad.failure_cases herror).imp_right (.imp_right (.imp_right ?_))
    rintro ⟨entries, hentries⟩
    exact Config.eq_tooLarge_of_ofTable (map_eq_error_iff.1 hentries)
  · refine (hrulesLoad.failure_cases herror).imp_right (.imp_right (.imp_right ?_))
    rintro ⟨entries, hentries⟩
    exact RuleTables.exists_eq_pattern_of_build hentries

/-- A configuration file that names an executable. -/
def plainSettings : List UInt8 := "toolchain:\n  executable: xcrun\n".toUTF8.toList

/-- A disk with a configuration file, and with a file of rules that is no text. -/
def diskOf (settings : List UInt8) : Disk where
  root := .directory [(Config.fileName, .file settings), ("rules.yml", .file [0xFF])]

/-- No text starts with a byte of eight ones. -/
theorem decodeUtf8_startByte_ne_ok (text : List Char) : Text.decodeUtf8 [0xFF] ≠ .ok text := by
  have hnone : (Text.decodeUtf8 [0xFF]).toOption = none := by decide +kernel
  intro h
  rw [h] at hnone
  cases hnone

/-- The configuration file of the example keeps the promise. -/
theorem isHarmless_plainSettings :
    IsHarmless (Config.blankOr Yaml.read) (fun entries => ¬ Config.IsTimeoutTooLarge entries)
      plainSettings := by
  have hcheck : ((Text.decodeUtf8 plainSettings).toOption.bind fun text =>
      (Config.blankOr Yaml.read (Text.normalizeNewlines text)).toOption.bind fun v =>
        v.table?.map fun entries =>
          (Table.get (Config.section? entries "toolchain") "timeout").isNull) = some true := by
    decide +kernel
  cases hdecode : Text.decodeUtf8 plainSettings with
  | error failure => rw [hdecode] at hcheck; cases hcheck
  | ok text =>
    refine ⟨text, hdecode, ?_⟩
    rw [hdecode] at hcheck
    cases hread : Config.blankOr Yaml.read (Text.normalizeNewlines text) with
    | error failure => simp [Except.toOption, hread] at hcheck
    | ok v =>
      cases v with
      | table entries =>
        rintro ⟨n, hn, -⟩
        simp [Except.toOption, hread, Value.table?, hn, Value.isNull] at hcheck
      | _ => simp [Except.toOption, hread, Value.table?] at hcheck

/-- Plain settings are loaded as promised, rules that are no text are not. -/
theorem keepsPromise_load_plainSettings :
    (diskOf plainSettings).readBytes (Config.fileOf (diskOf plainSettings) { root := "/" }) =
        .ok plainSettings ∧
      (diskOf plainSettings).readBytes (.ofText "/rules.yml") = .ok [0xFF] ∧
      KeepsPromise (Config.blankOr Yaml.read) plainSettings
        (Config.load (diskOf plainSettings) none { root := "/" }) ∧
      ¬ KeepsPromise Yaml.read [0xFF]
        (RuleTables.load (diskOf plainSettings) (some (.ofText "/rules.yml"))).result := by
  have hsettings : (diskOf plainSettings).readBytes
      (Config.fileOf (diskOf plainSettings) { root := "/" }) = .ok plainSettings := by
    decide +kernel
  have hrules : (diskOf plainSettings).readBytes (.ofText "/rules.yml") = .ok [0xFF] := by
    decide +kernel
  have hload := keepsPromise_load_iff Yaml.read Pattern.fault? none hsettings hrules
  refine ⟨hsettings, hrules, hload.1.2 isHarmless_plainSettings, mt hload.2.1.1 ?_⟩
  rintro ⟨text, hdecode, -⟩
  exact decodeUtf8_startByte_ne_ok text hdecode

/-- A configuration file that is no text does not fail as a wrong configuration does. -/
theorem not_keepsPromise_load :
    ¬ KeepsPromise (Config.blankOr Yaml.read) [0xFF]
      (Config.load (diskOf [0xFF]) none { root := "/" }) := by
  have hnot : ¬ HoldsTable (Config.blankOr Yaml.read) [0xFF] := by
    rintro ⟨text, v, hdecode, -⟩
    exact decodeUtf8_startByte_ne_ok text hdecode
  have hload : Config.load (diskOf [0xFF]) none { root := "/" } =
      .error (.undecodable ⟨.startByte, 0, 1, 0xFF⟩) := by decide +kernel
  rw [keepsPromise_iff_of_not_holdsTable hnot, hload]
  rintro ⟨failure, heq⟩
  cases heq

end PackageLint
