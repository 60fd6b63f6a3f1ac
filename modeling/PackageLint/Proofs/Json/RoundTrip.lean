import Mathlib.Data.List.Forall2
import Mathlib.Data.List.Induction
import Mathlib.Data.List.Nodup
import Mathlib.Tactic.Set
import Mathlib.Tactic.SplitIfs
import PackageLint.Json.Reader
import PackageLint.Json.Writer

/-!
# Reading back what was written

The reader undoes the writer on plain documents, which are made of nothing, truth values, texts,
lists, and tables with a text key for each entry and no key twice, in either layout.

A list of characters *writes* a value if the reader takes it for the value wherever it stands.
What the writer puts between brackets writes a list or a table as soon as the elements do, because
the line breaks it adds are blanks that the reader skips.

## Main definitions

* `Value.IsPlain`: documents without numbers and without values of other kinds;
* `Json.Writes`: characters that the reader takes for a value, whatever follows them.

## Main results

* `readText_flatMap_escapeChar`: a text with its escapes is read back;
* `writes_writeAt`: what the writer gives for a plain document writes it;
* `read_write`: a plain document is read back from its text.
-/

namespace PackageLint

/-- The value is made of nothing, truth values, texts, lists, and tables with distinct texts as
keys. -/
inductive Value.IsPlain : Value → Prop
  | null : IsPlain .null
  | bool (b : Bool) : IsPlain (.bool b)
  | text (s : String) : IsPlain (.text s)
  | list {items : List Value} (hitems : ∀ item ∈ items, IsPlain item) : IsPlain (.list items)
  | ofFields {fields : List (String × Value)} (hkeys : (fields.map (·.1)).Nodup)
      (hfields : ∀ field ∈ fields, IsPlain field.2) : IsPlain (.ofFields fields)

/-- A key that is not there yet is put behind the others. -/
theorem Table.set_of_notMem {entries : Table} {key : Scalar} (value : Value)
    (h : key ∉ entries.map (·.1)) : set entries key value = entries ++ [(key, value)] := by
  induction entries with
  | nil => rfl
  | cons entry rest ih =>
    rw [List.map_cons, List.mem_cons, not_or] at h
    rw [set, if_neg fun heq => h.1 heq.symm, ih h.2, List.cons_append]

/-- Entries with distinct keys are the table that they write. -/
theorem Table.ofPairs_eq_self {pairs : List (Scalar × Value)} (h : (pairs.map (·.1)).Nodup) :
    ofPairs pairs = pairs := by
  induction pairs using List.reverseRecOn with
  | nil => rfl
  | append_singleton pairs pair ih =>
    rw [List.map_append, List.nodup_append] at h
    obtain ⟨hpairs, -, hdisjoint⟩ := h
    have hnew : pair.1 ∉ pairs.map (·.1) := fun hmem => hdisjoint _ hmem _ (by simp) rfl
    rw [ofPairs, List.foldl_append, ← ofPairs, ih hpairs]
    exact set_of_notMem _ hnew

namespace Json

/-! ## Texts -/

/-- The four digits of a control character give its number back. -/
theorem hexNumber?_hexDigits {n : Nat} (h : n < 0x20) :
    hexNumber? (Text.hexDigits 4 n) = some n := by
  revert n
  decide

/-- The escape of a control character by its code point. -/
theorem codePoint_hexDigits_append {c : Char} (h : c.toNat < 0x20) {cs : List Char}
    (hcs : cs ≠ []) : codePoint (Text.hexDigits 4 c.toNat ++ cs) = .ok (c, 4) := by
  have hlength : ¬ (Text.hexDigits 4 c.toNat ++ cs).length < 5 := by
    have := List.length_pos_iff.2 hcs
    rw [List.length_append, Text.length_hexDigits]
    omega
  have hchar : charOf c.toNat = c := by
    rw [charOf, if_neg (by omega), Char.ofNat_toNat]
  rw [codePoint, if_neg hlength, List.take_left' (Text.length_hexDigits _ _),
    List.drop_left' (Text.length_hexDigits _ _), hexNumber?_hexDigits h]
  simp only [hchar]
  split
  · rw [pairWith, if_neg (by omega), hchar]
  · rfl

/-- A character is written as it is, or as an escape that stands for it. -/
theorem escapeChar_eq_singleton_or_escaped (c : Char) :
    (escapeChar c = [c] ∧ c ≠ '"' ∧ c ≠ '\\' ∧ ¬ c.toNat < 0x20) ∨
      ∃ escape, escapeChar c = '\\' :: escape ∧
        ∀ start cs, cs ≠ [] → escaped start (escape ++ cs) = .ok (c, escape.length) := by
  rw [escapeChar]
  split_ifs with hquote hbackslash heq heq heq heq heq hcontrol
  -- The characters with an escape of their own.
  iterate 7
    subst c
    exact .inr ⟨_, rfl, fun _ _ _ => rfl⟩
  · refine .inr ⟨_, rfl, fun start cs hcs => ?_⟩
    rw [List.cons_append, escaped, codePoint_hexDigits_append hcontrol hcs]
    simp [Except.map]
  · exact .inl ⟨rfl, hquote, hbackslash, hcontrol⟩

/-- One character of a text, with its escape. -/
theorem readText_escapeChar_append (start : Nat) (c : Char) {cs : List Char} (hcs : cs ≠ []) :
    readText start (escapeChar c ++ cs) = (readText start cs).map fun p => (c :: p.1, p.2) := by
  obtain ⟨hplain, hquote, hbackslash, hcontrol⟩ | ⟨escape, hescape, hescaped⟩ :=
    escapeChar_eq_singleton_or_escaped c
  · rw [hplain, List.singleton_append, readText.eq_4 _ _ _ (by simpa) (by simpa), if_neg hcontrol]
    cases readText start cs <;> rfl
  · rw [hescape, List.cons_append, readText, hescaped start cs hcs]
    simp only [List.drop_left]
    cases readText start cs <;> rfl

/-- A text with its escapes is read back up to its closing quote. -/
theorem readText_flatMap_escapeChar (start : Nat) (cs rest : List Char) :
    readText start (cs.flatMap escapeChar ++ '"' :: rest) = .ok (cs, rest) := by
  induction cs with
  | nil => simp [readText]
  | cons c cs ih =>
    rw [List.flatMap_cons, List.append_assoc, readText_escapeChar_append start c (by simp), ih]
    rfl

/-! ## Values between brackets -/

/-- The characters that plain values start with. -/
def openings : List Char := ['n', 't', 'f', '"', '[', '\x7b']

/-- The characters start as a plain value does. -/
def Opens (cs : List Char) : Prop := ∃ c ∈ openings, ∃ rest, cs = c :: rest

/-- The reader takes the characters for the value, whatever follows them. -/
structure Writes (cs : List Char) (v : Value) : Prop where
  /-- No blank and no closing bracket stands in front. -/
  opens : Opens cs
  /-- Fuel for each character is enough. -/
  readValue_append : ∀ {fuel : Nat} (rest : List Char), cs.length ≤ fuel →
    readValue fuel (cs ++ rest) = .ok (v, rest)

/-- The characters are a key and those of a value. -/
def WritesEntry (cs : List Char) (entry : Scalar × Value) : Prop :=
  ∃ (key : String) (value : List Char), entry.1 = .text key ∧ Writes value entry.2 ∧
    cs = '"' :: (key.toList.flatMap escapeChar ++ '"' :: ':' :: ' ' :: value)

/-- In front of a character that is no space nothing is skipped. -/
theorem skipSpaces_cons {c : Char} (h : isSpace c = false) (rest : List Char) :
    skipSpaces (c :: rest) = c :: rest := by
  rw [skipSpaces, List.dropWhile_cons_of_neg (by simp [h])]

/-- Blanks in front of a text are skipped. -/
theorem skipSpaces_append {gap : List Char} (h : ∀ c ∈ gap, isSpace c = true) (cs : List Char) :
    skipSpaces (gap ++ cs) = skipSpaces cs :=
  List.dropWhile_append_of_pos h

/-- The start of a value is its start with more behind it. -/
theorem Opens.append {cs : List Char} (h : Opens cs) (rest : List Char) : Opens (cs ++ rest) := by
  obtain ⟨c, hc, tail, rfl⟩ := h
  exact ⟨c, hc, tail ++ rest, rfl⟩

/-- Nothing is skipped where a value starts. -/
theorem Opens.skipSpaces_eq {cs : List Char} (h : Opens cs) : skipSpaces cs = cs := by
  obtain ⟨c, hc, tail, rfl⟩ := h
  have hspace : ∀ c ∈ openings, isSpace c = false := by simp [openings, isSpace]
  exact skipSpaces_cons (hspace c hc) tail

/-- Elements with a separator start as the first one does. -/
theorem Opens.intercalate {piece : List Char} (h : Opens piece) (separator : List Char)
    (pieces : List (List Char)) : Opens (separator.intercalate (piece :: pieces)) := by
  cases pieces with
  | nil => rwa [List.intercalate_singleton]
  | cons next pieces =>
    rw [List.intercalate_cons_cons, List.append_assoc]
    exact h.append _

/-- An entry starts with the quote of its key. -/
theorem WritesEntry.opens {cs : List Char} {entry : Scalar × Value} (h : WritesEntry cs entry) :
    Opens cs := by
  obtain ⟨key, value, -, -, rfl⟩ := h
  exact ⟨'"', by decide, _, rfl⟩

/-- What the reader makes of a value in brackets: its elements are read one by one, a comma goes on
with them and the closing bracket ends them. -/
structure ReadsBracketed {β : Type} (WritesElement : List Char → β → Prop)
    (readElements : Nat → List Char → Except Stop (List β × List Char)) (value : List β → Value)
    (opening closing : Char) : Prop where
  opening_mem : opening ∈ openings
  isSpace_closing : isSpace closing = false
  /-- No blank stands in front of an element. -/
  opens : ∀ {cs : List Char} {b : β}, WritesElement cs b → Opens cs
  /-- There need not be any elements. -/
  empty : ∀ {fuel : Nat} (rest : List Char),
    readValue (fuel + 1) (opening :: closing :: rest) = .ok (value [], rest)
  /-- The elements start behind the opening bracket. -/
  first : ∀ {fuel : Nat} {cs cs' : List Char}, skipSpaces cs = cs' → Opens cs' →
    readValue (fuel + 1) (opening :: cs) = (readElements fuel cs').map fun p => (value p.1, p.2)
  /-- A comma goes on with the elements. -/
  next : ∀ {cs : List Char} {b : β} {fuel : Nat} {rest rest' : List Char}, WritesElement cs b →
    cs.length ≤ fuel → skipSpaces rest = ',' :: rest' →
      readElements (fuel + 1) (cs ++ rest) =
        (readElements fuel (skipSpaces rest')).map fun p => (b :: p.1, p.2)
  /-- The closing bracket ends the elements. -/
  last : ∀ {cs : List Char} {b : β} {fuel : Nat} {rest rest' : List Char}, WritesElement cs b →
    cs.length ≤ fuel → skipSpaces rest = closing :: rest' →
      readElements (fuel + 1) (cs ++ rest) = .ok ([b], rest')

/-- A list is read as its elements between brackets. -/
theorem readsBracketed_list : ReadsBracketed Writes readItems .list '[' ']' where
  opening_mem := by decide
  isSpace_closing := rfl
  opens h := h.opens
  empty rest := by
    rw [readValue, skipSpaces_cons rfl]
    rfl
  first := by
    rintro fuel cs cs' hskip ⟨c, hc, tail, rfl⟩
    rw [readValue, hskip]
    split
    · cases ‹c :: tail = _›
      exact absurd hc (by decide)
    · rfl
  next h hfuel hrest := by
    rw [readItems, h.readValue_append _ hfuel]
    simp only [hrest]
  last h hfuel hrest := by
    rw [readItems, h.readValue_append _ hfuel]
    simp only [hrest]

/-- The key of an entry is read, then its value, and what stands behind them decides. -/
theorem WritesEntry.readEntries_append {cs : List Char} {entry : Scalar × Value}
    (h : WritesEntry cs entry) {fuel : Nat} {rest rest' : List Char} (hfuel : cs.length ≤ fuel) :
    (skipSpaces rest = ',' :: rest' → readEntries (fuel + 1) (cs ++ rest) =
      (readEntries fuel (skipSpaces rest')).map fun p => (entry :: p.1, p.2)) ∧
    (skipSpaces rest = '\x7d' :: rest' →
      readEntries (fuel + 1) (cs ++ rest) = .ok ([entry], rest')) := by
  obtain ⟨key, value, hkey, hvalue, rfl⟩ := h
  obtain ⟨_, v⟩ := entry
  obtain rfl : _ = Scalar.text key := hkey
  -- The blank behind the colon is skipped, and the value starts behind it.
  have hskip : skipSpaces (' ' :: (value ++ rest)) = value ++ rest := by
    rw [← List.singleton_append, skipSpaces_append (by simp [isSpace])]
    exact (hvalue.opens.append rest).skipSpaces_eq
  have hread : readValue fuel (value ++ rest) = .ok (v, rest) := by
    simp only [List.length_cons, List.length_append] at hfuel
    exact hvalue.readValue_append rest (by omega)
  rw [List.cons_append, List.append_assoc, readEntries]
  simp only [List.cons_append, readText_flatMap_escapeChar, skipSpaces_cons (c := ':') rfl, hskip,
    hread, String.ofList_toList]
  constructor
  · intro hrest
    simp only [hrest]
  · intro hrest
    simp only [hrest]

/-- A table is read as its entries between braces. -/
theorem readsBracketed_table :
    ReadsBracketed WritesEntry readEntries (fun pairs => .table (Table.ofPairs pairs))
      '\x7b' '\x7d' where
  opening_mem := by decide
  isSpace_closing := rfl
  opens h := h.opens
  empty rest := by
    rw [readValue, skipSpaces_cons rfl]
    rfl
  first := by
    rintro fuel cs cs' hskip ⟨c, hc, tail, rfl⟩
    rw [readValue, hskip]
    split
    · cases ‹c :: tail = _›
      exact absurd hc (by decide)
    · rfl
  next h hfuel hrest := (h.readEntries_append hfuel).1 hrest
  last h hfuel hrest := (h.readEntries_append hfuel).2 hrest

/-- What the writer puts between brackets: the elements with commas and blanks between them. -/
theorem toList_bracketed (indent : Option Nat) (depth : Nat) (opening closing : String)
    {elements : List String} (hne : elements ≠ []) :
    ∃ before gap after : List Char, (∀ c ∈ before, isSpace c = true) ∧
      (∀ c ∈ gap, isSpace c = true) ∧ (∀ c ∈ after, isSpace c = true) ∧
        (bracketed indent depth opening closing elements).toList =
          opening.toList ++ (before ++ ((',' :: gap).intercalate (elements.map String.toList) ++
            (after ++ closing.toList))) := by
  have hblank (depth : Nat) : ∀ c ∈ (lineBreak indent depth).toList, isSpace c = true := by
    -- On one line there is a blank behind each comma, and else a line break with its indent.
    cases indent with
    | none => simp [lineBreak]
    | some width => simp +contextual [lineBreak, isSpace]
  have hempty : elements.isEmpty = false := by simpa using hne
  rw [bracketed, hempty]
  cases indent with
  | none =>
    refine ⟨[], [' '], [], by simp, by simp [isSpace], by simp, ?_⟩
    simp [lineBreak]
  | some width =>
    refine ⟨_, (lineBreak (some width) (depth + 1)).toList, _, hblank (depth + 1),
      hblank (depth + 1), hblank depth, ?_⟩
    simp 

/-- The first character of a value takes one step, and the rest of it has to be read with what is
left. -/
theorem Writes.cons {c : Char} {cs : List Char} {v : Value} (hc : c ∈ openings)
    (h : ∀ {fuel : Nat} (rest : List Char), cs.length ≤ fuel →
      readValue (fuel + 1) (c :: (cs ++ rest)) = .ok (v, rest)) : Writes (c :: cs) v := by
  refine ⟨⟨c, hc, cs, rfl⟩, fun {fuel} rest hfuel => ?_⟩
  rw [List.length_cons] at hfuel
  obtain ⟨fuel, rfl⟩ : ∃ n, fuel = n + 1 := ⟨fuel - 1, by omega⟩
  exact h rest (by omega)

namespace ReadsBracketed

variable {β : Type} {WritesElement : List Char → β → Prop}
  {readElements : Nat → List Char → Except Stop (List β × List Char)} {value : List β → Value}
  {opening closing : Char}

/-- Elements with blanks between them are read up to the closing bracket. -/
theorem readElements_intercalate
    (hreads : ReadsBracketed WritesElement readElements value opening closing)
    {gap after : List Char} (hgap : ∀ c ∈ gap, isSpace c = true)
    (hafter : ∀ c ∈ after, isSpace c = true) {pieces : List (List Char)} {elements : List β}
    (h : List.Forall₂ WritesElement pieces elements) (hne : pieces ≠ []) {fuel : Nat}
    (rest : List Char) (hfuel : ((',' :: gap).intercalate pieces).length < fuel) :
    readElements fuel ((',' :: gap).intercalate pieces ++ (after ++ closing :: rest)) =
      .ok (elements, rest) := by
  induction h generalizing fuel with
  | nil => exact absurd rfl hne
  | @cons piece element pieces elements hpiece hpieces ih =>
    obtain ⟨fuel, rfl⟩ : ∃ n, fuel = n + 1 := ⟨fuel - 1, by omega⟩
    -- The last piece is followed by the closing bracket, any other one by a comma and a gap.
    cases hpieces with
    | nil =>
      rw [List.intercalate_singleton] at hfuel ⊢
      refine hreads.last hpiece (by omega) ?_
      rw [skipSpaces_append hafter, skipSpaces_cons hreads.isSpace_closing]
    | @cons next _ pieces _ hnext hpieces =>
      rw [List.intercalate_cons_cons, List.length_append, List.length_append,
        List.length_cons] at hfuel
      rw [List.intercalate_cons_cons, List.append_assoc, List.append_assoc, List.cons_append,
        hreads.next hpiece (by omega) (skipSpaces_cons rfl _), skipSpaces_append hgap,
        (((hreads.opens hnext).intercalate _ _).append _).skipSpaces_eq,
        ih (by simp) (by omega)]
      rfl

/-- What the writer puts between brackets writes the value of its elements. -/
theorem writes_bracketed
    (hreads : ReadsBracketed WritesElement readElements value opening closing)
    (indent : Option Nat) (depth : Nat) {pieces : List String} {elements : List β}
    (h : List.Forall₂ WritesElement (pieces.map String.toList) elements) :
    Writes (bracketed indent depth (.singleton opening) (.singleton closing) pieces).toList
      (value elements) := by
  by_cases hne : pieces = []
  · subst hne
    cases h
    have heq : (bracketed indent depth (.singleton opening) (.singleton closing) []).toList =
        [opening, closing] := by simp [bracketed]
    rw [heq]
    exact .cons hreads.opening_mem fun rest _ => hreads.empty rest
  · obtain ⟨before, gap, after, hbefore, hgap, hafter, heq⟩ :=
      toList_bracketed indent depth (.singleton opening) (.singleton closing) hne
    rw [heq, String.toList_singleton, String.toList_singleton, List.singleton_append]
    refine .cons hreads.opening_mem fun {fuel} rest hfuel => ?_
    simp only [List.length_append, List.length_cons, List.length_nil] at hfuel
    -- The first element starts without a blank, so what is skipped is what the layout puts in
    -- front.
    have hopens : Opens ((',' :: gap).intercalate (pieces.map String.toList)) := by
      obtain ⟨piece, pieces, rfl⟩ := List.exists_cons_of_ne_nil hne
      cases h with
      | cons hpiece => exact (hreads.opens hpiece).intercalate _ _
    rw [List.append_assoc, List.append_assoc, List.append_assoc, List.singleton_append,
      hreads.first ((skipSpaces_append hbefore _).trans (hopens.append _).skipSpaces_eq)
        (hopens.append _),
      hreads.readElements_intercalate hgap hafter h (by simpa using hne) rest (by omega)]
    rfl

end ReadsBracketed

/-- The items of a list are written one by one. -/
theorem writeItems_eq_map (indent : Option Nat) (depth : Nat) (items : List Value) :
    writeItems indent depth items = items.map (writeAt indent depth) := by
  induction items with
  | nil => rw [writeItems, List.map_nil]
  | cons item rest ih => rw [writeItems, ih, List.map_cons]

/-- The entries of a table are written one by one, each with its key in front. -/
theorem writeEntries_eq_map (indent : Option Nat) (depth : Nat) (entries : List (Scalar × Value)) :
    writeEntries indent depth entries =
      entries.map fun entry => writeKey entry.1 ++ ": " ++ writeAt indent depth entry.2 := by
  induction entries with
  | nil => rw [writeEntries, List.map_nil]
  | cons entry rest ih => rw [writeEntries, ih, List.map_cons]

/-- The absence of a value is read back. -/
theorem writes_null : Writes (writeScalar .null).toList .null := by
  have heq : (writeScalar .null).toList = ['n', 'u', 'l', 'l'] := by simp [writeScalar]
  rw [heq]
  exact .cons (by decide) fun rest hfuel => by simp [readValue, readAtom, namedValues]

/-- A truth value is read back. -/
theorem writes_bool (b : Bool) : Writes (writeScalar (.bool b)).toList (.bool b) := by
  cases b with
  | false =>
    have heq : (writeScalar (.bool false)).toList = ['f', 'a', 'l', 's', 'e'] := by
      simp [writeScalar]
    rw [heq]
    exact .cons (by decide) fun rest hfuel => by simp [readValue, readAtom, namedValues]
  | true =>
    have heq : (writeScalar (.bool true)).toList = ['t', 'r', 'u', 'e'] := by simp [writeScalar]
    rw [heq]
    exact .cons (by decide) fun rest hfuel => by simp [readValue, readAtom, namedValues]

/-- A text is read back, whatever had to be escaped in it. -/
theorem writes_text (s : String) : Writes (writeText s).toList (.text s) := by
  have heq : (writeText s).toList = '"' :: (s.toList.flatMap escapeChar ++ ['"']) := by
    simp [writeText]
  rw [heq]
  refine .cons (by decide) fun rest _ => ?_
  rw [List.append_assoc, List.singleton_append, readValue.eq_4 _ _ (by simp) (by simp), readAtom,
    readText_flatMap_escapeChar]
  simp [Except.map]

/-- What the writer gives for a plain document writes it. -/
theorem writes_writeAt (indent : Option Nat) (depth : Nat) {v : Value} (h : v.IsPlain) :
    Writes (writeAt indent depth v).toList v := by
  induction h generalizing depth with
  | null => exact writes_null
  | bool b => exact writes_bool b
  | text s => exact writes_text s
  | list _ ih =>
    rw [writeAt, writeItems_eq_map]
    refine readsBracketed_list.writes_bracketed indent depth ?_
    rw [List.map_map]
    exact List.forall₂_map_left_iff.2 (List.forall₂_same.2 fun item hitem => ih item hitem _)
  | @ofFields fields hkeys _ ih =>
    -- The reader sets the keys one by one, which changes nothing as they are distinct.
    set entries := fields.map fun field => (Scalar.text field.1, field.2) with hentries
    have hpairs : Table.ofPairs entries = entries := by
      refine Table.ofPairs_eq_self ?_
      have heq : entries.map (·.1) = (fields.map (·.1)).map .text := by
        rw [hentries, List.map_map, List.map_map]
        rfl
      rw [heq]
      exact hkeys.map fun _ _ => Scalar.text.inj
    have hpieces : List.Forall₂ WritesEntry
        ((writeEntries indent (depth + 1) entries).map String.toList) entries := by
      rw [writeEntries_eq_map, List.map_map, hentries, List.map_map]
      refine List.forall₂_map_left_iff.2 (List.forall₂_map_right_iff.2
        (List.forall₂_same.2 fun field hfield => ?_))
      exact ⟨field.1, _, rfl, ih field hfield (depth + 1), by simp [writeKey, writeText]⟩
    have hwrites := readsBracketed_table.writes_bracketed indent depth hpieces
    rw [hpairs] at hwrites
    exact hwrites

/-- A plain document is read back from its text, in either layout. -/
theorem read_write (indent : Option Nat) {v : Value} (h : v.IsPlain) :
    read (write indent v).toList = .ok v := by
  have hwrites : Writes (write indent v).toList v := writes_writeAt indent 0 h
  -- No byte order mark stands in front of a value.
  have hmark : (write indent v).toList.head? ≠ some (Char.ofNat 0xFEFF) := by
    obtain ⟨c, hc, rest, heq⟩ := hwrites.opens
    rw [heq, List.head?_cons, Ne, Option.some.injEq]
    rintro rfl
    exact absurd hc (by decide)
  have hread : readValue (2 * (write indent v).toList.length + 2) ((write indent v).toList ++ []) =
      .ok (v, []) := hwrites.readValue_append [] (by omega)
  rw [List.append_nil] at hread
  rw [read, readWhole, if_neg hmark, hwrites.opens.skipSpaces_eq, hread]
  rfl

end Json

end PackageLint
