import PackageLint.Document.Value
import PackageLint.Number.Decimal
import PackageLint.Text.Quoted

/-!
# The written form of a document

How a value stands in a message. A text stands for itself at the top and in quotes inside a list
or a table; nothing and the truth values have the names `None`, `True` and `False`.
-/

namespace PackageLint

/-- A scalar inside a list or a table. -/
def Scalar.inner : Scalar → String
  | null => "None"
  | bool b => if b then "True" else "False"
  | int n => toString n
  | real x => x.text
  | text s => Text.quoted s
  | other written => written

/-- A scalar in a message. -/
def Scalar.written : Scalar → String
  | text s => s
  | s => s.inner

namespace Value

mutual

/-- A value inside a list or a table. -/
def inner : Value → String
  | scalar s => s.inner
  | list items => "[" ++ ", ".intercalate (innerItems items) ++ "]"
  | table entries => "\x7b" ++ ", ".intercalate (innerEntries entries) ++ "\x7d"

/-- The items of a list, each in its written form. -/
def innerItems : List Value → List String
  | [] => []
  | item :: rest => item.inner :: innerItems rest

/-- The entries of a table, each in its written form. -/
def innerEntries : List (Scalar × Value) → List String
  | [] => []
  | (key, value) :: rest => (key.inner ++ ": " ++ value.inner) :: innerEntries rest

end

/-- A value in a message. -/
def written : Value → String
  | scalar s => s.written
  | v => v.inner

@[simp] theorem written_text (s : String) : (text s).written = s := rfl

@[simp] theorem written_null : null.written = "None" := rfl

end Value

end PackageLint
