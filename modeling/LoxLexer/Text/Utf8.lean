/-
# UTF-8, strict and lossy

Encoding writes one to four bytes per character. Decoding reads byte by byte and
divides the input into parts: a part is either a whole character or a malformed
stretch that is as long as it can be while it could still have begun a
character. The two decoders differ only in what they make of a malformed part.
The strict one refuses the whole input and the lossy one puts the replacement
character in its place.

A byte that cannot continue the character before it closes a malformed part and
is then read again as the beginning of the next part, so a line feed always
stands for itself.
-/

import LoxLexer.Text.Line

namespace LoxLexer.Text.Utf8

/-- The bytes of a text. -/
def encode (text : List Char) : List UInt8 := text.flatMap String.utf8EncodeChar

@[simp] theorem encode_nil : encode [] = [] := rfl

@[simp] theorem encode_append (first second : List Char) :
    encode (first ++ second) = encode first ++ encode second := by
  simp [encode]

/-- A text takes as many bytes as its size says. -/
theorem length_encode (text : List Char) : (encode text).length = byteSize text := by
  induction text with
  | nil => rfl
  | cons character rest ih =>
      simpa [encode, String.length_utf8EncodeChar] using ih

/-- How far the reading of the current character has come. -/
inductive Progress
  | boundary
  /-- A character has begun. `value` holds the bits read so far, `later` counts
  the bytes that follow the next one, and the next one continues the character
  if it is from `lowest` to `highest`. -/
  | inside (value later lowest highest : Nat)

/-- Reads a byte that begins a part: the parts that it completes and the progress
after it. The first continuation byte is restricted where a wider range would
give an overlong form, a surrogate or a value beyond the last character. -/
def beginPart (byte : Nat) : List (Option Char) × Progress :=
  if byte < 0x80 then ([some (Char.ofNat byte)], .boundary)
  else if byte < 0xC2 then ([none], .boundary)
  else if byte < 0xE0 then ([], .inside (byte - 0xC0) 0 0x80 0xBF)
  else if byte = 0xE0 then ([], .inside 0 1 0xA0 0xBF)
  else if byte = 0xED then ([], .inside 0x0D 1 0x80 0x9F)
  else if byte < 0xF0 then ([], .inside (byte - 0xE0) 1 0x80 0xBF)
  else if byte = 0xF0 then ([], .inside 0 2 0x90 0xBF)
  else if byte < 0xF4 then ([], .inside (byte - 0xF0) 2 0x80 0xBF)
  else if byte = 0xF4 then ([], .inside 4 2 0x80 0x8F)
  else ([none], .boundary)

/-- Reads one byte: the parts that it completes and the progress after it. -/
def readByte : Progress → Nat → List (Option Char) × Progress
  | .boundary, byte => beginPart byte
  | .inside value later lowest highest, byte =>
    if lowest ≤ byte ∧ byte ≤ highest then
      let extended := value * 64 + (byte - 0x80)
      match later with
      | 0 => ([some (Char.ofNat extended)], .boundary)
      | later + 1 => ([], .inside extended later 0x80 0xBF)
    else
      let (parts, progress) := beginPart byte
      (none :: parts, progress)

/-- The parts of the input that follow the given progress. An input that ends
inside a character ends in a malformed part. -/
def partsFrom : Progress → List UInt8 → List (Option Char)
  | .boundary, [] => []
  | .inside .., [] => [none]
  | progress, byte :: rest =>
    let (parts, next) := readByte progress byte.toNat
    parts ++ partsFrom next rest

/-- The parts of an input: a character, or `none` for a malformed stretch. -/
def parts (bytes : List UInt8) : List (Option Char) := partsFrom .boundary bytes

/-- Strict decoding: the text, if the input has no malformed part. -/
def decode? (bytes : List UInt8) : Option (List Char) := (parts bytes).mapM id

/-- The character that stands for a malformed part. -/
def replacement : Char := '\ufffd'

/-- Lossy decoding: each malformed part becomes one replacement character. -/
def decodeLossy (bytes : List UInt8) : List Char :=
  (parts bytes).map fun part => part.getD replacement

end LoxLexer.Text.Utf8
