import Mathlib
import PackageLint.Proofs.Report.RoundTrip

/-!
# Reports that cannot be read back

A report that is a list, or has one, is read back whatever its entries hold, but for one thing: a
place that ends with a colon and digits is taken to have a line, and not every digit can be written
in a number. A superscript is such a digit. The first entry with such a place makes the whole report
unreadable; otherwise each table among the entries gives one diagnostic.

## Main definitions

* `IsNoNumber`: digits that are no number;
* `HasReadablePlace`: the place of an entry does not end with a colon and such digits;
* `ListsEntries`: a document is a list of entries, or a table with such a list or with none.

## Main results

* `Location.read_eq_error_iff`: when a place cannot be read;
* `Diagnostic.exists_ofTable_eq_ok_iff`: when an entry can be read;
* `Report.exists_read_iff_hasReadablePlace`: when a report can be read, what is read, and what is
  said otherwise;
* `Report.read_superscriptLine`: a report that cannot.
-/

namespace PackageLint

/-- The text consists of digits of any kind, and some of them are not decimal. -/
def IsNoNumber (digits : String) : Prop :=
  (∀ c ∈ digits.toList, Text.isDigit c = true) ∧ ∃ c ∈ digits.toList, Text.isDecimal c = false

/-- The place of an entry does not end with a colon and digits that are no number. -/
def HasReadablePlace (entries : Table) : Prop :=
  ∀ file digits : String, Table.get entries "location" = .text (file ++ ":" ++ digits) →
    ¬ IsNoNumber digits

/-! ## Line numbers -/

namespace Text

theorem isDecimal_of_isSome_naturalFrom? {cs : List Char} {n : Nat}
    (h : (naturalFrom? n cs).isSome = true) : ∀ c ∈ cs, isDecimal c = true := by
  induction cs generalizing n with
  | nil => simp
  | cons c cs ih =>
    rw [naturalFrom?] at h
    cases hc : decimal? c with
    | none => simp [hc] at h
    | some d =>
      rw [hc, Option.bind_some] at h
      rw [List.forall_mem_cons]
      exact ⟨by rw [isDecimal, hc]; rfl, ih h⟩

/-- No number is written where some character is no decimal digit. -/
theorem natural?_eq_none_iff {cs : List Char} (hne : cs ≠ []) :
    natural? cs = none ↔ ∃ c ∈ cs, isDecimal c = false := by
  constructor
  · intro hnone
    by_contra hall
    have hdecimal : ∀ c ∈ cs, isDecimal c = true := by simpa using hall
    have hsome := isSome_natural? hne hdecimal
    rw [hnone] at hsome
    cases hsome
  · rintro ⟨c, hc, hother⟩
    by_contra hsome
    rw [natural?.eq_2 _ hne, ← Ne, Option.ne_none_iff_isSome] at hsome
    rw [isDecimal_of_isSome_naturalFrom? hsome c hc] at hother
    cases hother

end Text

/-- A place cannot be read exactly if it ends with a colon and digits that are no number. -/
theorem Location.read_eq_error_iff {s : String} {n : NotANumber} :
    read s = .error n ↔ ∃ file : String, s = file ++ ":" ++ n.text ∧ IsNoNumber n.text := by
  constructor
  · intro h
    -- Only a place that ends with a colon and digits can fail, and then for its digits.
    by_cases hend : EndsWithLine s
    · obtain ⟨file, digits, rfl, hne, hdigits⟩ := hend
      rw [read_append_digits hne hdigits] at h
      cases hnumber : Text.natural? digits.toList with
      | some k => simp [hnumber] at h
      | none =>
        simp only [hnumber, Except.error.injEq] at h
        subst h
        exact ⟨file, rfl, hdigits, (Text.natural?_eq_none_iff (by simpa using hne)).1 hnumber⟩
    · rw [read_of_not_endsWithLine hend] at h
      cases h
  · rintro ⟨file, rfl, hdigits, c, hc, hother⟩
    have hne : n.text.toList ≠ [] := List.ne_nil_of_mem hc
    rw [read_append_digits (by simpa using hne) hdigits,
      (Text.natural?_eq_none_iff hne).2 ⟨c, hc, hother⟩]

/-! ## Entries -/

namespace Diagnostic

/-- An entry that cannot be read fails for its place. -/
theorem ofTable_eq_error_iff {entries : Table} {n : NotANumber} :
    ofTable entries = .error n ↔
      ∃ file : String, Table.get entries "location" = .text (file ++ ":" ++ n.text) ∧
        IsNoNumber n.text := by
  -- A place is read if it is a text that is not empty.
  have hplace : ofTable entries = .error n ↔
      ∃ place, (Table.get entries "location").nonemptyText? = some place ∧
        Location.read place = .error n := by
    rw [ofTable]
    cases (Table.get entries "location").nonemptyText? with
    | none => simp [pure, Except.pure, bind, Except.bind]
    | some place =>
      cases hread : Location.read place with
      | error m => simp [hread, Except.map, bind, Except.bind]
      | ok l => simp [hread, Except.map, bind, Except.bind, pure, Except.pure]
  rw [hplace]
  constructor
  · rintro ⟨place, htext, hread⟩
    obtain ⟨file, rfl, hnumber⟩ := Location.read_eq_error_iff.1 hread
    exact ⟨file, (Value.nonemptyText?_eq_some_iff.1 htext).1, hnumber⟩
  · rintro ⟨file, htext, hnumber⟩
    refine ⟨file ++ ":" ++ n.text, Value.nonemptyText?_eq_some_iff.2 ⟨htext, ?_⟩,
      Location.read_eq_error_iff.2 ⟨file, rfl, hnumber⟩⟩
    rw [Ne, ← String.toList_inj]
    simp

/-- An entry can be read exactly if its place can, whatever else it holds. -/
theorem exists_ofTable_eq_ok_iff {entries : Table} :
    (∃ d, ofTable entries = .ok d) ↔ HasReadablePlace entries := by
  constructor
  · rintro ⟨d, hd⟩ file digits hplace hnumber
    have herror : ofTable entries = .error ⟨digits⟩ :=
      ofTable_eq_error_iff.2 ⟨file, hplace, hnumber⟩
    rw [hd] at herror
    cases herror
  · intro h
    cases hread : ofTable entries with
    | ok d => exact ⟨d, rfl⟩
    | error n =>
      obtain ⟨file, hplace, hnumber⟩ := ofTable_eq_error_iff.1 hread
      exact absurd hnumber (h file n.text hplace)

end Diagnostic

/-! ## Reports -/

namespace Report

/-- The document is the list of the entries, or a table that has the list under `diagnostics`. A
table without that field has no entries. -/
inductive ListsEntries : Value → List Value → Prop
  | list (items : List Value) : ListsEntries (.list items) items
  | absent {fields : Table} (h : Table.find? fields (.text "diagnostics") = none) :
      ListsEntries (.table fields) []
  | field {fields : Table} {items : List Value}
      (h : Table.find? fields (.text "diagnostics") = some (.list items)) :
      ListsEntries (.table fields) items

theorem ListsEntries.entries?_eq {v : Value} {items : List Value} (h : ListsEntries v items) :
    entries? v = some items := by
  cases h with
  | list => rfl
  | absent h => rw [entries?, h]; rfl
  | field h => rw [entries?, h]; rfl

/-- A report that lists its entries is read back exactly if no entry has a place that ends with a
colon and digits that are no number. Each table among the entries then gives the diagnostic that it
describes, in their order. Otherwise the first table with such a place is what is said to be
wrong. -/
theorem exists_read_iff_hasReadablePlace {s : String} {v : Value} {items : List Value}
    (hdocument : Json.read s.toList = .ok v) (hitems : ListsEntries v items) :
    ((∃ ds, read s = .ok ds) ↔ ∀ entries ∈ items.filterMap Value.table?, HasReadablePlace entries) ∧
    (∀ ds, read s = .ok ds →
      List.Forall₂ (fun entries d => Diagnostic.ofTable entries = .ok d)
        (items.filterMap Value.table?) ds) ∧
    (∀ failure, read s = .error failure ↔
      ∃ before entries after n, items.filterMap Value.table? = before ++ entries :: after ∧
        (∀ other ∈ before, HasReadablePlace other) ∧ failure = .line n ∧
        ∃ file : String, Table.get entries "location" = .text (file ++ ":" ++ n.text) ∧
          IsNoNumber n.text) := by
  have hread : read s =
      ((items.filterMap Value.table?).mapM Diagnostic.ofTable).mapError .line := by
    rw [read, hdocument]
    simp only [ofDocument, hitems.entries?_eq]
  rw [hread]
  -- The entries are read one after the other up to the first that fails, and entries fail for places.
  refine ⟨?_, fun ds hds => mapM_eq_ok_iff.1 (mapError_eq_ok_iff.1 hds), fun failure => ?_⟩
  · simp only [mapError_eq_ok_iff, exists_mapM_eq_ok_iff, Diagnostic.exists_ofTable_eq_ok_iff]
  · simp only [mapError_eq_error_iff, mapM_eq_error_iff, Diagnostic.exists_ofTable_eq_ok_iff,
      Diagnostic.ofTable_eq_error_iff]
    constructor
    · rintro ⟨n, ⟨before, entries, after, heq, hbefore, hplace⟩, rfl⟩
      exact ⟨before, entries, after, n, heq, hbefore, rfl, hplace⟩
    · rintro ⟨before, entries, after, n, heq, hbefore, rfl, hplace⟩
      exact ⟨n, ⟨before, entries, after, heq, hbefore, hplace⟩, rfl⟩

/-- An entry with a place, and with fields of other kinds than those of a diagnostic. -/
def looseEntry : Table := [
  (.text "location", .text "a:b:12"), (.text "severity", .list [.int 1]), (.text "message", .null)]

/-- A report with that entry, one that is no table and one without fields. -/
def looseReport : Value :=
  .table [(.text "diagnostics", .list [.table looseEntry, .int 5, .table []])]

/-- Two of the entries are diagnostics. -/
theorem exists_read_iff_hasReadablePlace_looseReport :
    Json.read (Json.write none looseReport).toList = .ok looseReport ∧
      ListsEntries looseReport [.table looseEntry, .int 5, .table []] ∧
      ∃ first second, read (Json.write none looseReport) = .ok [first, second] ∧
        first.location = some { file := "a:b", line := some 12 } ∧ second.message = "" := by
  have hdocument : Json.read (Json.write none looseReport).toList = .ok looseReport := by cbv
  have hitems : ListsEntries looseReport [.table looseEntry, .int 5, .table []] := .field rfl
  have htables : [.table looseEntry, .int 5, .table []].filterMap Value.table? = [looseEntry, []] :=
    rfl
  obtain ⟨hreads, hdiagnostics, -⟩ := exists_read_iff_hasReadablePlace hdocument hitems
  rw [htables] at hreads hdiagnostics
  have hplaces : ∀ entries ∈ [looseEntry, []], HasReadablePlace entries := by
    intro entries hentries
    rw [List.mem_pair] at hentries
    rcases hentries with rfl | rfl
    · exact Diagnostic.exists_ofTable_eq_ok_iff.1 ⟨_, rfl⟩
    · exact Diagnostic.exists_ofTable_eq_ok_iff.1 ⟨_, rfl⟩
  obtain ⟨ds, hds⟩ := hreads.2 hplaces
  cases hdiagnostics ds hds with
  | @cons _ first _ _ hfirst hrest =>
    cases hrest with
    | @cons _ second _ _ hsecond hrest =>
      cases hrest
      refine ⟨hdocument, hitems, first, second, hds, ?_, ?_⟩
      · cases hfirst
        rfl
      · cases hsecond
        rfl

/-- A superscript behind the last colon of a place makes a report unreadable. -/
theorem read_superscriptLine :
    let items : List Value := [.table [(.text "location", .text "A.swift:²")]]
    let s := "[\x7b\"location\": \"A.swift:²\"\x7d]"
    Json.read s.toList = .ok (.list items) ∧ ListsEntries (.list items) items ∧
      read s = .error (.line ⟨"²"⟩) := by
  refine ⟨by cbv, .list _, by cbv⟩

end Report

end PackageLint
