import PackageLint.Document.Value

/-!
# Bodies of requests

The fields of a request to the service. A field has to be of its kind; a truth value may also be
written as a number or as one of a few words. What no field is made of is passed over.
-/

namespace PackageLint.Service

/-- A body that a request cannot have. -/
inductive BodyFault
  /-- The body is no table. -/
  | noTable
  /-- A field is missing. -/
  | missing (key : String)
  /-- A field is of another kind. -/
  | wrongKind (key : String)
  deriving DecidableEq, Repr

/-- The words for a truth value. -/
def truthWords : List (String × Bool) := [
  ("0", false), ("off", false), ("f", false), ("false", false), ("n", false), ("no", false),
  ("1", true), ("on", true), ("t", true), ("true", true), ("y", true), ("yes", true)]

/-- A letter of the Latin alphabet in lower case. -/
def lowerLetters (s : String) : String := s.map Char.toLower

/-- The truth value that a value means. -/
def truth? : Value → Option Bool
  | .bool b => some b
  | .int 0 => some false
  | .int 1 => some true
  -- Of the numbers only zero and one are truth values.
  | .real x =>
    if !x.isNonzero then some false else if x = Binary64.ofInt 1 then some true else none
  | .text s => truthWords.lookup (lowerLetters s)
  | _ => none

/-- The body of a request. -/
abbrev Body := Table

namespace Body

/-- A text that has to be there. -/
def text (body : Body) (key : String) : Except BodyFault String :=
  match Table.find? body (.text key) with
  | none => .error (.missing key)
  | some (.text s) => .ok s
  | some _ => .error (.wrongKind key)

/-- A text with a default. -/
def textOr (body : Body) (key default : String) : Except BodyFault String :=
  match Table.find? body (.text key) with
  | none => .ok default
  | some (.text s) => .ok s
  | some _ => .error (.wrongKind key)

/-- A text that may be missing or nothing. -/
def text? (body : Body) (key : String) : Except BodyFault (Option String) :=
  match Table.find? body (.text key) with
  | none | some .null => .ok none
  | some (.text s) => .ok (some s)
  | some _ => .error (.wrongKind key)

/-- A truth value, false where there is none. -/
def flag (body : Body) (key : String) : Except BodyFault Bool :=
  match Table.find? body (.text key) with
  | none => .ok false
  | some v =>
    match truth? v with
    | some b => .ok b
    | none => .error (.wrongKind key)

/-- The fields of a document. -/
def ofValue? : Option Value → Except BodyFault Body
  | some (.table entries) => .ok entries
  | _ => .error .noTable

end Body

/-- A truth value means itself. -/
@[simp] theorem truth?_bool (b : Bool) : truth? (.bool b) = some b := rfl

end PackageLint.Service
