import PackageLint.Text.Search

/-!
# Paths

A path is a root and the parts below it. Empty parts and single dots carry no meaning and are
dropped when a path is read; double dots are kept until a path is made absolute.

## Main results

* `isAbsolute_resolve`: a path that was made absolute starts at the root;
* `not_mem_normalizeFrom`: it holds no double dots.
-/

namespace PackageLint

/-- A path: relative where its root is empty. -/
structure Path where
  /-- Empty, a slash, or two slashes. -/
  root : String := ""
  /-- The names on the way from the root. -/
  parts : List String := []
  deriving DecidableEq, Repr

namespace Path

/-- The root that a text starts with: exactly two slashes are a root of their own. -/
def rootOf : List Char → String
  | '/' :: '/' :: '/' :: _ => "/"
  | '/' :: '/' :: _ => "//"
  | '/' :: _ => "/"
  | _ => ""

/-- A part that carries a meaning. -/
def isMeaningful (part : String) : Bool := part ≠ "" && part ≠ "."

/-- The path that a text writes. -/
def ofText (s : String) : Path where
  root := rootOf s.toList
  parts := ((Text.splitAt '/' s.toList).map String.ofList).filter isMeaningful

/-- The written form of a path. -/
def text (p : Path) : String :=
  if p.root.isEmpty && p.parts.isEmpty then "." else p.root ++ Text.joinWith "/" p.parts

/-- The path starts at a root. -/
def isAbsolute (p : Path) : Bool := !p.root.isEmpty

/-- The root, if there is one, and the parts. -/
def components (p : Path) : List String := if p.isAbsolute then p.root :: p.parts else p.parts

/-- The last part, empty where there is none. -/
def name (p : Path) : String := p.parts.getLast?.getD ""

/-- The path without its last part. -/
def parent (p : Path) : Path := { p with parts := p.parts.dropLast }

/-- What follows a path: an absolute path stands for itself. -/
def append (p q : Path) : Path :=
  if q.isAbsolute then q else { p with parts := p.parts ++ q.parts }

instance : Append Path := ⟨append⟩

/-- An entry of the directory at a path. -/
def child (p : Path) (name : String) : Path := { p with parts := p.parts ++ [name] }

/-- The end of a name from its last dot on, empty where the dot begins or ends the name. -/
def suffixOf (name : String) : String :=
  match Text.cutAtLast '.' name.toList with
  | some (_ :: _, c :: rest) => .ofList ('.' :: c :: rest)
  | _ => ""

/-- The suffix of the last part. -/
def suffix (p : Path) : String := suffixOf p.name

/-- Parts in which a double dot takes back the part before it; at the root it does nothing. The
parts that are kept are held in reverse order. -/
def normalizeFrom (kept : List String) : List String → List String
  | [] => kept.reverse
  | part :: rest => normalizeFrom (if part = ".." then kept.drop 1 else part :: kept) rest

/-- The absolute path without double dots that a path means in a directory. -/
def resolve (directory p : Path) : Path where
  root := "/"
  parts := normalizeFrom [] (directory ++ p).parts

/-- The order of paths compares their components one by one. -/
def precedes (p q : Path) : Bool := !q.components.lex p.components

/-- An absolute path is not changed by the directory in front of it. -/
@[simp] theorem append_of_isAbsolute {p q : Path} (h : q.isAbsolute = true) : p ++ q = q := by
  show append p q = q
  simp [append, h]

/-- A path that was made absolute starts at the root. -/
@[simp] theorem isAbsolute_resolve (directory p : Path) :
    (resolve directory p).isAbsolute = true := by
  simp [resolve, isAbsolute]

/-- No double dots are left where none were kept. -/
theorem not_mem_normalizeFrom {kept parts : List String} (h : ".." ∉ kept) :
    ".." ∉ normalizeFrom kept parts := by
  induction parts generalizing kept with
  | nil => simpa [normalizeFrom] using h
  | cons part rest ih =>
    rw [normalizeFrom]
    apply ih
    split
    · exact fun hm => h (List.mem_of_mem_drop hm)
    · rename_i hp
      simpa [h] using fun e => hp e.symm

example : (ofText "a//b/./c/").text = "a/b/c" := by cbv

example : (ofText "Package.swift").suffix = ".swift" := by cbv

end Path

end PackageLint
