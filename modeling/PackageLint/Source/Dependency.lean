import PackageLint.Diagnostic.Basic
import PackageLint.Text.Search
import PackageLint.Text.WordTable

/-!
# Dependency declarations

The variable that a line with `@Dependency` declares, and its type if one is written. The last
`var` on the line counts that is followed by blanks and a name.
-/

namespace PackageLint.Source

open Text

/-- A declared variable. -/
structure Declaration where
  /-- The name of the variable. -/
  variableName : String
  /-- The type behind the colon. -/
  typeName : Option String
  deriving DecidableEq, Repr

/-- The word at the start of a text, if there is one, and the rest. -/
def takeWord (cs : List Char) : Option (String × List Char) :=
  match cs.takeWhile isWordChar with
  | [] => none
  | name => some (.ofList name, cs.dropWhile isWordChar)

/-- A colon and a type name, with blanks around the colon. -/
def typeAnnotation (cs : List Char) : Option String :=
  match trimStart cs with
  | ':' :: rest => (takeWord (trimStart rest)).map (·.1)
  | _ => none

/-- The declaration that starts with `var` right here. -/
def declarationHere (cs : List Char) : Option Declaration :=
  if "var".toList.isPrefixOf cs then
    match cs.drop 3 with
    | c :: rest =>
      if isBlank c then
        (takeWord (trimStart rest)).map fun (name, rest) => ⟨name, typeAnnotation rest⟩
      else none
    | [] => none
  else none

/-- The last declaration that starts before the next line feed. -/
def lastDeclaration : List Char → Option Declaration
  | [] => none
  | c :: rest =>
    let later := if c = '\n' then none else lastDeclaration rest
    later.or (declarationHere (c :: rest))

/-- The declaration behind the first `@Dependency` that has one. -/
def declaration? : List Char → Option Declaration
  | [] => none
  | c :: rest =>
    let here :=
      if "@Dependency".toList.isPrefixOf (c :: rest) then lastDeclaration ((c :: rest).drop 11)
      else none
    here.or (declaration? rest)

/-- Types whose values must not be shared between threads. -/
def nonSendableTypes : List String := ["URLSession", "Timer", "FileHandle", "DispatchQueue"]

/-- What is said of a declaration whose variable or type has the name of such a type. -/
def nonSendableFinding (location : Location) (d : Declaration) : Option Diagnostic :=
  let names := d.variableName :: d.typeName.toList
  (names.find? nonSendableTypes.contains).map fun offending =>
    let declared := match d.typeName with
      | some t => s!"{d.variableName}: {t}"
      | none => d.variableName
    { severity := .warning
      category := .compilation
      message := s!"Non-Sendable dependency '{offending}' should be marked with @State"
      location
      suggestion := s!"Add @State: @State @Dependency var {declared}" }

end PackageLint.Source
