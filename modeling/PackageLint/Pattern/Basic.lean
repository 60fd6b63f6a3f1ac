import PackageLint.Text.Case
import PackageLint.Text.Digit

/-!
# Patterns

Regular expressions as they are searched for in a text: classes of characters, the places where a
text, a line or a word begins or ends, sequences, alternatives, repetitions and looking ahead.
Whether a pattern is found does not depend on the order in which alternatives are tried, so a
pattern denotes the set of places that a match can end at.

This is less than the full language of regular expressions. Looking behind, references to groups,
conditions on groups and characters by name are not in it, and a group or a repetition that gives
nothing back keeps the furthest of its ends, which is not always the one that is tried first. What
is proved of rules and configurations therefore holds for any faults and any meaning of patterns
(`Languages`), and this language stands in where no other one is given.
-/

namespace PackageLint

/-- The classes of characters that have a name. -/
inductive CharGroup
  /-- Letters, numbers and the underscore. -/
  | word
  /-- Decimal digits. -/
  | digit
  /-- Blanks. -/
  | blank
  deriving DecidableEq, Repr

/-- A part of a character class. Characters are given by their code points. -/
inductive ClassItem
  /-- A single character. -/
  | one (code : Nat)
  /-- The characters from `low` to `high`. -/
  | range (low high : Nat)
  /-- A named class, or all characters outside it. -/
  | group (group : CharGroup) (complement : Bool)
  deriving DecidableEq, Repr

/-- A class of characters. -/
structure CharClass where
  /-- The class holds the characters that no item holds. -/
  complement : Bool
  /-- The parts of the class. -/
  items : List ClassItem
  /-- Upper and lower case are not told apart. -/
  ignoreCase : Bool
  /-- Named classes hold characters of ASCII only. -/
  asciiOnly : Bool
  deriving DecidableEq, Repr

/-- A regular expression. -/
inductive Pattern
  /-- The empty text. -/
  | empty
  /-- One character of a class. -/
  | chars (set : CharClass)
  /-- One character, a line feed only where the flag says so. -/
  | anyChar (newlineToo : Bool)
  /-- The start of the text, or of any line. -/
  | lineStart (anyLine : Bool)
  /-- The end of the text or of its last line, or of any line. -/
  | lineEnd (anyLine : Bool)
  /-- The end of the text. -/
  | textEnd
  /-- A place between a word character and another one, or a place that is no such place. -/
  | wordEdge (inverse asciiOnly : Bool)
  /-- One pattern behind the other. -/
  | seq (first second : Pattern)
  /-- One pattern or the other. -/
  | either (first second : Pattern)
  /-- A pattern at least `least` and at most `most` times. A possessive repetition is not given up
  again once it has gone as far as it can. -/
  | loop (least : Nat) (most : Option Nat) (possessive : Bool) (body : Pattern)
  /-- A place where the pattern follows, or where it does not follow. -/
  | ahead (inverse : Bool) (body : Pattern)
  deriving Repr

/-- The named class holds the character. -/
def CharGroup.holds (asciiOnly : Bool) (group : CharGroup) (c : Char) : Bool :=
  if asciiOnly then
    match group with
    | word => c.isAlphanum || c = '_'
    | digit => c.isDigit
    | blank => c = ' ' || (9 ≤ c.toNat && c.toNat ≤ 13)
  else match group with
    | word => Text.isWordChar c
    | digit => Text.isDecimal c
    | blank => Text.isBlank c

/-- Lower-case characters that count as the same when case is ignored, beyond those with a common
upper case. -/
def caseCompanions : List (Nat × List Nat) := [
  (105, [305]), (115, [383]), (181, [956]), (305, [105]), (383, [115]), (837, [953, 8126]),
  (912, [8147]), (944, [8163]), (946, [976]), (949, [1013]), (952, [977]), (953, [837, 8126]),
  (954, [1008]), (956, [181]), (960, [982]), (961, [1009]), (962, [963]), (963, [962]),
  (966, [981]), (976, [946]), (977, [952]), (981, [966]), (982, [960]), (1008, [954]),
  (1009, [961]), (1013, [949]), (1074, [7296]), (1076, [7297]), (1086, [7298]), (1089, [7299]),
  (1090, [7300, 7301]), (1098, [7302]), (1123, [7303]), (7296, [1074]), (7297, [1076]),
  (7298, [1086]), (7299, [1089]), (7300, [1090, 7301]), (7301, [1090, 7300]), (7302, [1098]),
  (7303, [1123]), (7304, [42571]), (7777, [7835]), (7835, [7777]), (8126, [837, 953]),
  (8147, [912]), (8163, [944]), (42571, [7304]), (64261, [64262]), (64262, [64261])]

/-- The lower case that characters are compared by when case is ignored. -/
def foldCase (asciiOnly : Bool) (c : Char) : Char :=
  if asciiOnly then c.toLower else Text.lowerChar c

/-- The characters whose lower case is the code point. -/
def upperForms (asciiOnly : Bool) (code : Nat) : List Nat :=
  let ascii := if 0x61 ≤ code ∧ code ≤ 0x7A then [code - 32] else []
  let itself := if (foldCase asciiOnly (Char.ofNat code)).toNat = code then [code] else []
  if asciiOnly then itself ++ ascii
  else
    let others := Text.lowerRuns.filterMap fun run =>
      let source := (code - run.shift : Int)
      if 0 ≤ source ∧ run.holds source.toNat then some source.toNat else none
    itself ++ ascii ++ (if code = 0x69 then [0x130] else []) ++ others

/-- The code points that count as the same as a lower-case one: itself and its companions. -/
def sameCase (asciiOnly : Bool) (code : Nat) : List Nat :=
  code :: (if asciiOnly then [] else
    (caseCompanions.filter fun entry => entry.2.contains code).map (·.1))

/-- The item holds the character. -/
def ClassItem.holds (asciiOnly : Bool) (item : ClassItem) (c : Char) : Bool :=
  match item with
  | one code => c.toNat = code
  | range low high => low ≤ c.toNat && c.toNat ≤ high
  | group g complement => g.holds asciiOnly c != complement

/-- The item holds the lower-case character or one that differs from it in case only. -/
def ClassItem.holdsFolded (asciiOnly : Bool) (item : ClassItem) (c : Char) : Bool :=
  match item with
  | one code =>
    (sameCase asciiOnly c.toNat).contains (foldCase asciiOnly (Char.ofNat code)).toNat
  | range low high =>
    ((sameCase asciiOnly c.toNat).flatMap (upperForms asciiOnly)).any fun code =>
      low ≤ code && code ≤ high
  | group g complement => g.holds asciiOnly c != complement

/-- The class holds the character. -/
def CharClass.holds (set : CharClass) (c : Char) : Bool :=
  let inside :=
    if set.ignoreCase then
      set.items.any (·.holdsFolded set.asciiOnly (foldCase set.asciiOnly c))
    else set.items.any (·.holds set.asciiOnly c)
  inside != set.complement

namespace Pattern

/-- A place in a text: the character before it, and what follows it. -/
structure Place where
  /-- The character before the place. -/
  before : Option Char
  /-- The characters behind the place. -/
  rest : List Char
  /-- The number of characters behind the place. -/
  left : Nat

/-- All places of a text that follows `before`, from the first to the last. -/
def placesFrom (before : Option Char) : List Char → List Place
  | [] => [⟨before, [], 0⟩]
  | c :: rest => ⟨before, c :: rest, rest.length + 1⟩ :: placesFrom (some c) rest

/-- The place behind the next character, if the character satisfies the test. -/
def Place.step (test : Char → Bool) (place : Place) : Option Place :=
  match place.rest with
  | c :: rest => if test c then some ⟨some c, rest, place.left - 1⟩ else none
  | [] => none

/-- The places of two lists, each in the order of the text, without repetition. -/
def union : List Place → List Place → List Place
  | [], ys => ys
  | xs, [] => xs
  | x :: xs, y :: ys =>
    -- The place with more characters left comes first.
    if y.left < x.left then x :: union xs (y :: ys)
    else if x.left < y.left then y :: union (x :: xs) ys
    else x :: union xs ys
termination_by xs ys => xs.length + ys.length

/-- The places of the first list that are not in the second, both in the order of the text. -/
def without : List Place → List Place → List Place
  | [], _ => []
  | xs, [] => xs
  | x :: xs, y :: ys =>
    if y.left < x.left then x :: without xs (y :: ys)
    else if x.left < y.left then without (x :: xs) ys
    else without xs ys
termination_by xs ys => xs.length + ys.length

/-- The places that are reached by steps from the frontier, beside those reached already; `fuel`
bounds the number of steps. -/
def grow (step : List Place → List Place) : (fuel : Nat) → (frontier reached : List Place) →
    List Place
  | 0, _, reached => reached
  | fuel + 1, frontier, reached =>
    let fresh := without (step frontier) reached
    if fresh.isEmpty then reached else grow step fuel fresh (union reached fresh)

/-- The places after exactly `count` steps; when a step leads nowhere else, no more are taken. -/
def advance (step : List Place → List Place) : (count : Nat) → List Place → List Place
  | 0, places => places
  | count + 1, places =>
    let next := step places
    -- A step that changes nothing changes nothing later on either.
    if next.map (·.left) = places.map (·.left) then places else advance step count next

/-- The places after at least `least` and at most `most` steps. -/
def repeated (step : List Place → List Place) (least : Nat) (most : Option Nat)
    (places : List Place) : List Place :=
  let start := advance step least places
  -- A step that reaches a new place reaches one further to the right.
  let room := (start.head?.elim 0 (·.left)) + 1
  grow step (most.elim room fun most => min room (most - least)) start start

/-- A word character stands on one side of the place only, or, for the inverse, on both or none.
The empty text has no such place of either kind. -/
def Place.isWordEdge (inverse asciiOnly : Bool) (place : Place) : Bool :=
  let isWord (c? : Option Char) := c?.any (CharGroup.word.holds asciiOnly)
  (place.before.isSome || !place.rest.isEmpty) &&
    (isWord place.before != isWord place.rest.head?) != inverse

/-- The place begins the text, or a line of it. -/
def Place.isLineStart (anyLine : Bool) (place : Place) : Bool :=
  place.before.isNone || (anyLine && place.before = some '\n')

/-- The place ends the text or its last line, or any line of it. -/
def Place.isLineEnd (anyLine : Bool) (place : Place) : Bool :=
  match place.rest with
  | [] => true
  | c :: rest => c = '\n' && (rest.isEmpty || anyLine)

/-- The places that a match can end at when it starts at one of the given places. -/
def ends : Pattern → List Place → List Place
  | empty, places => places
  | chars set, places => places.filterMap (·.step set.holds)
  | anyChar newlineToo, places => places.filterMap (·.step fun c => newlineToo || c != '\n')
  | lineStart anyLine, places => places.filter (·.isLineStart anyLine)
  | lineEnd anyLine, places => places.filter (·.isLineEnd anyLine)
  | textEnd, places => places.filter (·.rest.isEmpty)
  | wordEdge inverse asciiOnly, places =>
    places.filter fun place => place.isWordEdge inverse asciiOnly
  | seq first second, places => second.ends (first.ends places)
  | either first second, places => union (first.ends places) (second.ends places)
  | loop least most possessive body, places =>
    -- Of each start only the place that is furthest to the right is kept.
    if possessive then
      places.foldl
        (fun found place => union found (repeated body.ends least most [place]).getLast?.toList) []
    else repeated body.ends least most places
  | ahead inverse body, places =>
    places.filter fun place => (body.ends [place]).isEmpty = inverse

/-- The pattern is found somewhere in the text. -/
def foundIn (p : Pattern) (text : List Char) : Bool := !(p.ends (placesFrom none text)).isEmpty

/-- The empty pattern is found in every text. -/
@[simp] theorem foundIn_empty (text : List Char) : foundIn empty text = true := by
  cases text <;> rfl

end Pattern

end PackageLint
