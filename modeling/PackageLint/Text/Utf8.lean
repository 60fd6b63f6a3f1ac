/-!
# UTF-8

Decoding of bytes into characters. A character is a leading byte and up to three tail bytes; the
leading byte fixes the number of tails and the range of the first of them. Strict decoding stops
at the first flaw and says where it is and of which kind; lenient decoding puts a replacement
character in the place of each flaw.

## Main results

* `firstChar_of_ascii`: a byte below 128 is a character of its own.
-/

namespace PackageLint.Text

/-- What is wrong with bytes that are no character. -/
inductive Utf8Flaw
  /-- No character starts with this byte. -/
  | startByte
  /-- A tail byte was expected. -/
  | continuationByte
  /-- The bytes end inside a character. -/
  | truncated
  deriving DecidableEq, Repr

/-- Where strict decoding stopped. -/
structure Utf8Failure where
  /-- The kind of flaw. -/
  flaw : Utf8Flaw
  /-- The number of bytes before the flaw. -/
  position : Nat
  /-- The number of bytes that belong to the flaw. -/
  width : Nat
  /-- The first byte of the flaw. -/
  byte : UInt8
  deriving DecidableEq, Repr

/-- What a leading byte says about its character. -/
structure Utf8Lead where
  /-- The bits of the code point that the byte holds. -/
  bits : Nat
  /-- The number of tail bytes. -/
  tails : Nat
  /-- The least first tail byte. -/
  low : Nat
  /-- The greatest first tail byte. -/
  high : Nat

/-- The reading of a leading byte; overlong forms, surrogates and code points that are too large
are ruled out by the range of the first tail byte. -/
def Utf8Lead.ofByte? (byte : UInt8) : Option Utf8Lead :=
  let b := byte.toNat
  if b < 0x80 then some ⟨b, 0, 0x80, 0xBF⟩
  else if b < 0xC2 then none
  else if b < 0xE0 then some ⟨b - 0xC0, 1, 0x80, 0xBF⟩
  else if b = 0xE0 then some ⟨0, 2, 0xA0, 0xBF⟩
  else if b = 0xED then some ⟨0xD, 2, 0x80, 0x9F⟩
  else if b < 0xF0 then some ⟨b - 0xE0, 2, 0x80, 0xBF⟩
  else if b = 0xF0 then some ⟨0, 3, 0x90, 0xBF⟩
  else if b < 0xF4 then some ⟨b - 0xF0, 3, 0x80, 0xBF⟩
  else if b = 0xF4 then some ⟨4, 3, 0x80, 0x8F⟩
  else none

/-- Reads `count` tail bytes onto the bits read so far. A failure carries the number of bytes
that belong to the flaw; `taken` bytes of the character lie behind. -/
def takeTails (low high bits taken : Nat) :
    (count : Nat) → List UInt8 → Except (Utf8Flaw × Nat) Nat
  | 0, _ => .ok bits
  | _ + 1, [] => .error (.truncated, taken)
  | count + 1, byte :: rest =>
    let b := byte.toNat
    if low ≤ b ∧ b ≤ high then
      takeTails 0x80 0xBF (64 * bits + (b - 0x80)) (taken + 1) count rest
    else .error (.continuationByte, taken)

/-- The character at the start of the bytes `byte :: rest` and the number of its tail bytes. -/
def firstChar (byte : UInt8) (rest : List UInt8) : Except (Utf8Flaw × Nat) (Char × Nat) :=
  match Utf8Lead.ofByte? byte with
  | none => .error (.startByte, 1)
  | some lead => do
    let bits ← takeTails lead.low lead.high lead.bits 1 lead.tails rest
    return (Char.ofNat bits, lead.tails)

/-- Strict decoding of bytes that stand behind `position` others. -/
def decodeFrom (position : Nat) (bytes : List UInt8) : Except Utf8Failure (List Char) :=
  match bytes with
  | [] => .ok []
  | byte :: rest =>
    match firstChar byte rest with
    | .error (flaw, width) => .error ⟨flaw, position, width, byte⟩
    | .ok (c, tails) =>
      match decodeFrom (position + 1 + tails) (rest.drop tails) with
      | .error failure => .error failure
      | .ok cs => .ok (c :: cs)
termination_by bytes.length

/-- Strict decoding. -/
def decodeUtf8 (bytes : List UInt8) : Except Utf8Failure (List Char) := decodeFrom 0 bytes

/-- Lenient decoding: each flaw becomes one replacement character. -/
def decodeLenient (bytes : List UInt8) : List Char :=
  match bytes with
  | [] => []
  | byte :: rest =>
    match firstChar byte rest with
    | .ok (c, tails) => c :: decodeLenient (rest.drop tails)
    | .error (.truncated, _) => [Char.ofNat 0xFFFD]
    -- The byte that does not fit may begin a character of its own.
    | .error (_, width) => Char.ofNat 0xFFFD :: decodeLenient (rest.drop (width - 1))
termination_by bytes.length

/-- The bytes of a string. -/
def encodeUtf8 (s : String) : List UInt8 := s.toUTF8.toList

@[simp] theorem decodeUtf8_nil : decodeUtf8 [] = .ok [] := by
  simp [decodeUtf8, decodeFrom]

/-- A byte below 128 is a character of its own. -/
theorem firstChar_of_ascii {byte : UInt8} (h : byte.toNat < 0x80) (rest : List UInt8) :
    firstChar byte rest = .ok (Char.ofNat byte.toNat, 0) := by
  simp [firstChar, Utf8Lead.ofByte?, h, takeTails, bind, Except.bind, pure, Except.pure]

end PackageLint.Text
