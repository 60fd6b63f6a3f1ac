import PackageLint.Number.Binary64

/-!
# Documents

The values that a JSON or a YAML document holds: scalars, lists, and tables whose entries keep
their order. A table has at most one entry for a key; writing an entry again keeps the first
position and takes the last value. Reading a document whose shape is not known beforehand goes
through the accessors at the end, whose failures are the causes in `ShapeFault`.

## Main results

* `Table.find?_set_self`: an entry that was just written is found;
* `Table.find?_set_of_ne`: writing an entry leaves the others alone;
* `Value.nonemptyText?_eq_some_iff`: which values are texts that are not empty.
-/

namespace PackageLint

/-- A value without parts. -/
inductive Scalar
  /-- Nothing. -/
  | null
  /-- A truth value. -/
  | bool (b : Bool)
  /-- A whole number of any size. -/
  | int (n : Int)
  /-- A floating point number. -/
  | real (x : Binary64)
  /-- A text. -/
  | text (s : String)
  /-- A value of a kind that no rule looks into, such as a date, kept in its written form. -/
  | other (written : String)
  deriving DecidableEq, Repr

/-- A document. -/
inductive Value
  /-- A value without parts. -/
  | scalar (s : Scalar)
  /-- A list. -/
  | list (items : List Value)
  /-- A table with its entries in order. -/
  | table (entries : List (Scalar × Value))
  deriving Repr

/-- The entries of a table. -/
abbrev Table := List (Scalar × Value)

/-- What a document of the wrong shape is asked in vain. -/
inductive ShapeFault
  /-- To give its elements one by one. -/
  | notIterable
  /-- To give the value of a field. -/
  | noFields
  /-- To give its first element. -/
  | notIndexable
  /-- To give the entry of a table under a number. -/
  | missingKey
  /-- To give the first element of an empty list. -/
  | noElement
  deriving DecidableEq, Repr

namespace Table

/-- The table with an entry: in the place of the entry with the same key, else at the end. -/
def set (entries : Table) (key : Scalar) (value : Value) : Table :=
  match entries with
  | [] => [(key, value)]
  | (k, v) :: rest => if k = key then (k, value) :: rest else (k, v) :: set rest key value

/-- The table that a list of entries writes one after the other. -/
def ofPairs (pairs : List (Scalar × Value)) : Table :=
  pairs.foldl (fun entries pair => set entries pair.1 pair.2) []

/-- The value under a key. -/
def find? (entries : Table) (key : Scalar) : Option Value := entries.lookup key

/-- The table has an entry under a text key. -/
def has (entries : Table) (key : String) : Bool := (find? entries (.text key)).isSome

/-- The value under a text key, nothing where there is none. -/
def get (entries : Table) (key : String) : Value := (find? entries (.text key)).getD (.scalar .null)

@[simp] theorem find?_nil (key : Scalar) : find? [] key = none := rfl

/-- The entry that comes first is found first. -/
theorem find?_cons (k : Scalar) (v : Value) (rest : Table) (key : Scalar) :
    find? ((k, v) :: rest) key = if k = key then some v else find? rest key := by
  by_cases h : k = key
  · simp [find?, h]
  · have h' : (key == k) = false := beq_eq_false_iff_ne.2 fun e => h e.symm
    simp [find?, List.lookup_cons, h, h']

@[simp] theorem get_nil (key : String) : get [] key = .scalar .null := rfl

theorem get_cons (k : Scalar) (v : Value) (rest : Table) (key : String) :
    get ((k, v) :: rest) key = if k = .text key then v else get rest key := by
  rw [get, find?_cons]
  split <;> rfl

/-- An entry that was just written is found. -/
@[simp] theorem find?_set_self (entries : Table) (key : Scalar) (value : Value) :
    find? (set entries key value) key = some value := by
  induction entries with
  | nil => simp [set, find?]
  | cons entry rest ih =>
    obtain ⟨k, v⟩ := entry
    by_cases h : k = key
    · simp [set, find?, h]
    · have h' : key ≠ k := fun e => h e.symm
      simp only [set, if_neg h, find?, List.lookup_cons]
      simpa [beq_eq_false_iff_ne.2 h', find?] using ih

/-- Writing an entry leaves the others alone. -/
theorem find?_set_of_ne (entries : Table) {key other : Scalar} (value : Value) (h : other ≠ key) :
    find? (set entries key value) other = find? entries other := by
  induction entries with
  | nil => simp [set, find?, List.lookup_cons, beq_eq_false_iff_ne.2 h]
  | cons entry rest ih =>
    obtain ⟨k, v⟩ := entry
    by_cases hk : k = key
    · subst hk
      simp [set, find?, List.lookup_cons, beq_eq_false_iff_ne.2 h]
    · simp only [set, if_neg hk, find?, List.lookup_cons] at *
      split <;> simp_all

end Table

/-- A scalar counts as present: it is not nothing, false, zero, the empty text or no bytes. -/
def Scalar.isPresent : Scalar → Bool
  | null => false
  | bool b => b
  | int n => n != 0
  | real x => x.isNonzero
  | text s => !s.isEmpty
  -- Of the values of other kinds only a sequence of no bytes has an empty written form.
  | other written => !written.isEmpty

namespace Value

/-- Nothing. -/
@[match_pattern] abbrev null : Value := scalar .null

/-- A text. -/
@[match_pattern] abbrev text (s : String) : Value := scalar (.text s)

/-- A whole number. -/
@[match_pattern] abbrev int (n : Int) : Value := scalar (.int n)

/-- A truth value. -/
@[match_pattern] abbrev bool (b : Bool) : Value := scalar (.bool b)

/-- A floating point number. -/
@[match_pattern] abbrev real (x : Binary64) : Value := scalar (.real x)

/-- A table with text keys. -/
def ofFields (fields : List (String × Value)) : Value :=
  table (fields.map fun field => (.text field.1, field.2))

/-- A list of texts. -/
def ofTexts (texts : List String) : Value := list (texts.map text)

/-- A text, or nothing. -/
def ofText? : Option String → Value
  | some s => text s
  | none => null

/-- A natural number. -/
def ofNat (n : Nat) : Value := int n

/-- A value counts as present: it is not nothing, false, zero, or an empty text, list or table. -/
def isPresent : Value → Bool
  | scalar s => s.isPresent
  | list items => !items.isEmpty
  | table entries => !entries.isEmpty

/-- The first value if it counts as present, else the second. -/
def orElse (v other : Value) : Value := if v.isPresent then v else other

/-- The value is nothing. -/
def isNull : Value → Bool
  | null => true
  | _ => false

/-- The text that a value is. -/
def text? : Value → Option String
  | text s => some s
  | _ => none

/-- The text that a value is, unless it is empty. -/
def nonemptyText? : Value → Option String
  | text s => if s.isEmpty then none else some s
  | _ => none

/-- The items of a list. -/
def list? : Value → Option (List Value)
  | list items => some items
  | _ => none

/-- The entries of a table. -/
def table? : Value → Option Table
  | table entries => some entries
  | _ => none

/-- The items of a list, none for any other value. -/
def items (v : Value) : List Value := v.list?.getD []

/-- The value is a table. -/
def isTable (v : Value) : Bool := v.table?.isSome

/-- The elements of a value, one by one: the items of a list, the keys of a table, the characters
of a text. -/
def elements : Value → Except ShapeFault (List Value)
  | list items => .ok items
  | table entries => .ok (entries.map fun entry => scalar entry.1)
  | text s => .ok (s.toList.map fun c => text (String.singleton c))
  | scalar _ => .error .notIterable

/-- The elements of a value that counts as present; there are none where it does not. -/
def elementsIfPresent (v : Value) : Except ShapeFault (List Value) :=
  if v.isPresent then v.elements else .ok []

/-- The value of a field of a table, nothing where the table has no such field. -/
def field (v : Value) (key : String) : Except ShapeFault Value :=
  match v with
  | table entries => .ok (Table.get entries key)
  | _ => .error .noFields

/-- The first element of a list or the first character of a text. -/
def first : Value → Except ShapeFault Value
  | list (item :: _) => .ok item
  | list [] => .error .noElement
  | text s =>
    match s.toList with
    | c :: _ => .ok (text (String.singleton c))
    | [] => .error .noElement
  | table _ => .error .missingKey
  | scalar _ => .error .notIndexable

@[simp] theorem items_list (items : List Value) : (list items).items = items := rfl

@[simp] theorem items_table (entries : Table) : (table entries).items = [] := rfl

@[simp] theorem items_scalar (s : Scalar) : (scalar s).items = [] := rfl

@[simp] theorem table?_list (items : List Value) : (list items).table? = none := rfl

@[simp] theorem table?_table (entries : Table) : (table entries).table? = some entries := rfl

@[simp] theorem table?_scalar (s : Scalar) : (scalar s).table? = none := rfl

@[simp] theorem elementsIfPresent_null : elementsIfPresent null = .ok [] := rfl

/-- A list always gives its items. -/
@[simp] theorem elementsIfPresent_list (items : List Value) :
    elementsIfPresent (list items) = .ok items := by
  cases items <;> rfl

theorem text?_eq_some_iff {v : Value} {s : String} : v.text? = some s ↔ v = .text s := by
  unfold text?
  split <;> simp_all

theorem text?_eq_none_iff {v : Value} : v.text? = none ↔ ∀ s, v ≠ .text s := by
  rw [Option.eq_none_iff_forall_ne_some]
  exact forall_congr' fun s => not_congr text?_eq_some_iff

theorem nonemptyText?_eq_some_iff {v : Value} {s : String} :
    v.nonemptyText? = some s ↔ v = .text s ∧ s ≠ "" := by
  unfold nonemptyText?
  split
  · rename_i found
    simp only [String.isEmpty_iff, Option.ite_none_left_eq_some, Option.some.injEq, scalar.injEq,
      Scalar.text.injEq]
    -- Both sides say that the text is the one that is asked for, and that it is not empty.
    exact ⟨fun h => ⟨h.2, h.2 ▸ h.1⟩, fun h => ⟨h.1 ▸ h.2, h.1⟩⟩
  · rename_i hnot
    simp only [reduceCtorEq, false_iff, not_and]
    exact fun h => absurd h (hnot s)

/-- A default that is not empty stands for every text that is. -/
theorem getD_nonemptyText?_ne_empty (v : Value) {default : String} (h : default ≠ "") :
    v.nonemptyText?.getD default ≠ "" := by
  cases htext : v.nonemptyText? with
  | none => exact h
  | some s => exact (nonemptyText?_eq_some_iff.1 htext).2

end Value

end PackageLint
