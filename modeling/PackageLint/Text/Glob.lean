/-!
# File name patterns

Patterns with `*`, `?` and character classes in brackets. A star passes over any characters, also
over slashes. A bracket without its partner stands for itself, a class that starts with an
exclamation mark is complemented, and a range whose ends are in the wrong order holds nothing.
-/

namespace PackageLint.Text

/-- One piece of a file name pattern. -/
inductive GlobItem
  /-- Any characters. -/
  | star
  /-- Any single character. -/
  | anyChar
  /-- The character itself. -/
  | one (c : Char)
  /-- A character inside one of the ranges, or outside all of them. -/
  | oneOf (complement : Bool) (ranges : List (Char × Char))
  deriving DecidableEq, Repr

/-- A piece other than a star matches the character. -/
def GlobItem.holds : GlobItem → Char → Bool
  | star, _ => false
  | anyChar, _ => true
  | one c, d => c = d
  | oneOf complement ranges, c =>
    (ranges.any fun range => range.1 ≤ c && c ≤ range.2) != complement

/-- The chunks of a class between the hyphens that make ranges. A hyphen makes a range where it
stands at least `gap` characters behind the start of its chunk, `held` in reverse order. -/
def classChunks (gap : Nat) (held : List Char) : List Char → List (List Char)
  | [] => [held.reverse]
  | c :: rest =>
    match gap with
    | 0 => if c = '-' then held.reverse :: classChunks 2 [] rest else classChunks 0 (c :: held) rest
    | gap + 1 => classChunks gap (c :: held) rest

/-- Chunks whose last one is empty give their hyphen back to the chunk before it. -/
def closeChunks : List (List Char) → List (List Char)
  | [chunk, []] => [chunk ++ ['-']]
  | chunk :: rest => chunk :: closeChunks rest
  | [] => []

/-- Joins two neighbouring chunks whose range is in the wrong order, from the right. -/
def dropEmptyRanges : List (List Char) → List (List Char)
  | [] => []
  | chunk :: rest =>
    match dropEmptyRanges rest with
    | next :: others =>
      match chunk.getLast?, next.head? with
      | some low, some high =>
        if high < low then (chunk.dropLast ++ next.tail) :: others else chunk :: next :: others
      | _, _ => chunk :: next :: others
    | [] => [chunk]

/-- The ranges of a class: each character of a chunk by itself, and a range from the end of one
chunk to the start of the next. -/
def chunkRanges : List (List Char) → List (Char × Char)
  | [] => []
  | chunk :: rest =>
    let bridge := match chunk.getLast?, rest.head?.bind List.head? with
      | some low, some high => [(low, high)]
      | _, _ => []
    chunk.map (fun c => (c, c)) ++ bridge ++ chunkRanges rest

/-- The piece that a class in brackets stands for. -/
def classItem (cs : List Char) : GlobItem :=
  -- A hyphen in front of a class, or behind its exclamation mark, stands for itself.
  let gap := if cs.head? = some '!' then 2 else 1
  let chunks :=
    if cs.contains '-' then dropEmptyRanges (closeChunks (classChunks gap [] cs)) else [cs]
  match chunks with
  | ('!' :: first) :: rest => .oneOf true (chunkRanges (first :: rest))
  | chunks => .oneOf false (chunkRanges chunks)

/-- Cuts a class behind its opening bracket into its characters and what follows the closing
bracket, which cannot be the first character of the class. -/
def cutClass (cs : List Char) : Option (List Char × List Char) :=
  let (mark, body) := match cs with
    | '!' :: rest => (['!'], rest)
    | _ => ([], cs)
  -- A closing bracket in front belongs to the class.
  let (first, body) := match body with
    | ']' :: rest => ([']'], rest)
    | _ => ([], body)
  match body.dropWhile (· != ']') with
  | _ :: rest => some (mark ++ first ++ body.takeWhile (· != ']'), rest)
  | [] => none

/-- The pieces of a pattern; `fuel` bounds their number. -/
def globItems : (fuel : Nat) → List Char → List GlobItem
  | 0, _ | _, [] => []
  | fuel + 1, '*' :: rest => .star :: globItems fuel rest
  | fuel + 1, '?' :: rest => .anyChar :: globItems fuel rest
  | fuel + 1, '[' :: rest =>
    match cutClass rest with
    | some (cs, rest) => classItem cs :: globItems fuel rest
    | none => .one '[' :: globItems fuel rest
  | fuel + 1, c :: rest => .one c :: globItems fuel rest

/-- The pieces match the whole of a text. -/
def globHolds (items : List GlobItem) (cs : List Char) : Bool :=
  match items, cs with
  | [], cs => cs.isEmpty
  | .star :: items, [] => globHolds items []
  -- A star takes nothing, or one character and perhaps more.
  | .star :: items, c :: rest => globHolds items (c :: rest) || globHolds (.star :: items) rest
  | _ :: _, [] => false
  | item :: items, c :: rest => item.holds c && globHolds items rest
termination_by items.length + cs.length

/-- The pattern matches the whole of a text. -/
def globMatches (pattern text : List Char) : Bool :=
  globHolds (globItems pattern.length pattern) text

/-- A star alone matches every text. -/
theorem globHolds_star (cs : List Char) : globHolds [.star] cs = true := by
  induction cs with
  | nil => simp [globHolds]
  | cons c rest ih => simp [globHolds, ih]

end PackageLint.Text
