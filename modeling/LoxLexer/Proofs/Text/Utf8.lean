/-
# Decoding undoes encoding

The bytes of a text are read back as the text, strictly and lossily alike. No
byte of a character is that of a line feed unless the character is one, so the
lines of the bytes are the bytes of the lines.
-/

import LoxLexer.FileTree.Basic
import LoxLexer.Proofs.Text.Lines

namespace LoxLexer.Text.Utf8

/-! ## Reading the bytes of one character -/

variable {byte : UInt8} {rest : List UInt8} {value later lowest highest : Nat}

theorem partsFrom_single (small : byte.toNat < 0x80) :
    partsFrom .boundary (byte :: rest) =
      some (Char.ofNat byte.toNat) :: partsFrom .boundary rest := by
  simp [partsFrom, readByte, beginPart, small]

theorem partsFrom_begin {progress : Progress} (begins : beginPart byte.toNat = ([], progress)) :
    partsFrom .boundary (byte :: rest) = partsFrom progress rest := by
  simp [partsFrom, readByte, begins]

theorem partsFrom_continue (low : lowest ≤ byte.toNat) (high : byte.toNat ≤ highest) :
    partsFrom (.inside value (later + 1) lowest highest) (byte :: rest) =
      partsFrom (.inside (value * 64 + (byte.toNat - 0x80)) later 0x80 0xBF) rest := by
  simp [partsFrom, readByte, low, high]

theorem partsFrom_complete (low : lowest ≤ byte.toNat) (high : byte.toNat ≤ highest) :
    partsFrom (.inside value 0 lowest highest) (byte :: rest) =
      some (Char.ofNat (value * 64 + (byte.toNat - 0x80))) :: partsFrom .boundary rest := by
  simp [partsFrom, readByte, low, high]

/-! ## What the first byte of a code point expects -/

variable {code : Nat}

theorem beginPart_two (low : 0x7F < code) (high : code ≤ 0x7FF) :
    beginPart (code / 64 + 0xC0) = ([], .inside (code / 64) 0 0x80 0xBF) := by
  rw [beginPart, if_neg (by omega), if_neg (by omega), if_pos (by omega)]
  simp

/-- The restricted range of the second byte holds the second byte of a code point
that is neither overlong nor a surrogate. -/
theorem beginPart_three (low : 0x7FF < code) (high : code ≤ 0xFFFF)
    (scalar : code < 0xD800 ∨ 0xDFFF < code) :
    ∃ lowest highest, beginPart (code / 4096 + 0xE0) =
        ([], .inside (code / 4096) 1 lowest highest) ∧
      lowest ≤ code / 64 % 64 + 0x80 ∧ code / 64 % 64 + 0x80 ≤ highest := by
  rw [beginPart, if_neg (by omega), if_neg (by omega), if_neg (by omega)]
  by_cases overlong : code / 4096 = 0
  · refine ⟨0xA0, 0xBF, ?_, by omega, by omega⟩
    simp [overlong]
  by_cases surrogate : code / 4096 = 0x0D
  · refine ⟨0x80, 0x9F, ?_, by omega, by omega⟩
    simp [surrogate]
  rw [if_neg (by omega), if_neg (by omega), if_pos (by omega)]
  exact ⟨0x80, 0xBF, by simp, by omega, by omega⟩

/-- The same for four bytes and the last code point. -/
theorem beginPart_four (low : 0xFFFF < code) (high : code < 0x110000) :
    ∃ lowest highest, beginPart (code / 262144 + 0xF0) =
        ([], .inside (code / 262144) 2 lowest highest) ∧
      lowest ≤ code / 4096 % 64 + 0x80 ∧ code / 4096 % 64 + 0x80 ≤ highest := by
  rw [beginPart, if_neg (by omega), if_neg (by omega), if_neg (by omega), if_neg (by omega),
    if_neg (by omega), if_neg (by omega)]
  by_cases overlong : code / 262144 = 0
  · refine ⟨0x90, 0xBF, ?_, by omega, by omega⟩
    simp [overlong]
  by_cases last : code / 262144 = 4
  · refine ⟨0x80, 0x8F, ?_, by omega, by omega⟩
    simp [last]
  rw [if_neg (by omega), if_pos (by omega)]
  exact ⟨0x80, 0xBF, by simp, by omega, by omega⟩

/-! ## The bytes of a code point -/

/-- A continuation byte carries six bits. -/
theorem toNat_continuation (code : Nat) :
    (UInt8.ofNat (code % 64 + 0x80)).toNat = code % 64 + 0x80 :=
  UInt8.toNat_ofNat_of_lt' (by simp only [UInt8.size]; omega)

theorem toNat_leading {bits offset : Nat} (small : bits + offset < 256) :
    (UInt8.ofNat (bits + offset)).toNat = bits + offset :=
  UInt8.toNat_ofNat_of_lt' small

theorem partsFrom_two (low : 0x7F < code) (high : code ≤ 0x7FF) :
    partsFrom .boundary
        (UInt8.ofNat (code / 64 + 0xC0) :: UInt8.ofNat (code % 64 + 0x80) :: rest) =
      some (Char.ofNat code) :: partsFrom .boundary rest := by
  have leading := toNat_leading (show code / 64 + 0xC0 < 256 by omega)
  have second := toNat_continuation code
  have begins := beginPart_two low high
  rw [← leading] at begins
  have whole : code / 64 * 64 + (code % 64 + 0x80 - 0x80) = code := by omega
  rw [partsFrom_begin begins, partsFrom_complete (by omega) (by omega), second, whole]

theorem partsFrom_three (low : 0x7FF < code) (high : code ≤ 0xFFFF)
    (scalar : code < 0xD800 ∨ 0xDFFF < code) :
    partsFrom .boundary
        (UInt8.ofNat (code / 4096 + 0xE0) :: UInt8.ofNat (code / 64 % 64 + 0x80) ::
          UInt8.ofNat (code % 64 + 0x80) :: rest) =
      some (Char.ofNat code) :: partsFrom .boundary rest := by
  have leading := toNat_leading (show code / 4096 + 0xE0 < 256 by omega)
  have second := toNat_continuation (code / 64)
  have third := toNat_continuation code
  obtain ⟨lowest, highest, begins, above, below⟩ := beginPart_three low high scalar
  have whole : (code / 4096 * 64 + (code / 64 % 64 + 0x80 - 0x80)) * 64 +
      (code % 64 + 0x80 - 0x80) = code := by omega
  rw [← leading] at begins
  rw [partsFrom_begin begins, partsFrom_continue (by omega) (by omega),
    partsFrom_complete (by omega) (by omega), second, third, whole]

theorem partsFrom_four (low : 0xFFFF < code) (high : code < 0x110000) :
    partsFrom .boundary
        (UInt8.ofNat (code / 262144 + 0xF0) :: UInt8.ofNat (code / 4096 % 64 + 0x80) ::
          UInt8.ofNat (code / 64 % 64 + 0x80) :: UInt8.ofNat (code % 64 + 0x80) :: rest) =
      some (Char.ofNat code) :: partsFrom .boundary rest := by
  have leading := toNat_leading (show code / 262144 + 0xF0 < 256 by omega)
  have second := toNat_continuation (code / 4096)
  have third := toNat_continuation (code / 64)
  have fourth := toNat_continuation code
  obtain ⟨lowest, highest, begins, above, below⟩ := beginPart_four low high
  have whole : ((code / 262144 * 64 + (code / 4096 % 64 + 0x80 - 0x80)) * 64 +
      (code / 64 % 64 + 0x80 - 0x80)) * 64 + (code % 64 + 0x80 - 0x80) = code := by omega
  rw [← leading] at begins
  rw [partsFrom_begin begins, partsFrom_continue (by omega) (by omega),
    partsFrom_continue (by omega) (by omega), partsFrom_complete (by omega) (by omega),
    second, third, fourth, whole]

/-- The bytes of a character are read back as the character. -/
theorem partsFrom_encodeChar (character : Char) (rest : List UInt8) :
    partsFrom .boundary (String.utf8EncodeChar character ++ rest) =
      some character :: partsFrom .boundary rest := by
  have scalar : character.toNat < 0xD800 ∨
      (0xDFFF < character.toNat ∧ character.toNat < 0x110000) := character.valid
  have same : Char.ofNat character.toNat = character := Char.ofNat_toNat character
  have value : character.val.toNat = character.toNat := rfl
  simp only [String.utf8EncodeChar, value]
  generalize character.toNat = code at scalar same
  subst same
  split_ifs with one two three
  · have only := toNat_leading (show code + 0 < 256 by omega)
    simp only [Nat.add_zero] at only
    rw [List.singleton_append, partsFrom_single (by omega), only]
  · rw [Nat.mod_eq_of_lt (show code / 64 < 0x20 by omega)]
    exact partsFrom_two (by omega) two
  · rw [Nat.mod_eq_of_lt (show code / 4096 < 0x10 by omega)]
    exact partsFrom_three (by omega) three (by omega)
  · rw [Nat.mod_eq_of_lt (show code / 262144 < 0x08 by omega)]
    exact partsFrom_four (by omega) (by omega)

/-! ## Texts -/

/-- A text is read back whatever bytes follow it. -/
theorem parts_encode_append (text : List Char) (later : List UInt8) :
    parts (encode text ++ later) = text.map some ++ parts later := by
  induction text with
  | nil => rfl
  | cons character rest ih =>
      rw [parts, encode, List.flatMap_cons, List.append_assoc, partsFrom_encodeChar, List.map_cons]
      exact congrArg _ ih

@[simp] theorem parts_encode (text : List Char) : parts (encode text) = text.map some := by
  have whole := parts_encode_append text []
  rwa [List.append_nil, show parts [] = [] from rfl, List.append_nil] at whole

theorem decodeLossy_encode_append (text : List Char) (later : List UInt8) :
    decodeLossy (encode text ++ later) = text ++ decodeLossy later := by
  simp [decodeLossy, parts_encode_append, Function.comp_def]

@[simp] theorem decodeLossy_encode (text : List Char) : decodeLossy (encode text) = text := by
  simp [decodeLossy, Function.comp_def]

@[simp] theorem decode?_encode (text : List Char) : decode? (encode text) = some text := by
  rw [decode?, parts_encode]
  induction text with
  | nil => rfl
  | cons character rest ih => simp [ih]

/-! ## Lines -/

theorem ne_lineFeed {value : Nat} (small : value < 256) (differs : value ≠ 10) :
    (10 : UInt8) ≠ UInt8.ofNat value := by
  intro same
  apply differs
  rw [← UInt8.toNat_ofNat_of_lt' small, ← same]
  rfl

/-- Only a line feed has the byte of a line feed. -/
theorem lineFeed_not_mem_encodeChar {character : Char} (differs : character ≠ '\n') :
    (10 : UInt8) ∉ String.utf8EncodeChar character := by
  have unequal : character.toNat ≠ 10 := fun same => differs (Char.toNat_inj.mp same)
  have value : character.val.toNat = character.toNat := rfl
  simp only [String.utf8EncodeChar, value]
  generalize character.toNat = code at *
  split_ifs with one two three <;> simp only [List.mem_cons, List.not_mem_nil, or_false, not_or]
  · exact ne_lineFeed (by omega) unequal
  · exact ⟨ne_lineFeed (by omega) (by omega), ne_lineFeed (by omega) (by omega)⟩
  · exact ⟨ne_lineFeed (by omega) (by omega), ne_lineFeed (by omega) (by omega),
      ne_lineFeed (by omega) (by omega)⟩
  · exact ⟨ne_lineFeed (by omega) (by omega), ne_lineFeed (by omega) (by omega),
      ne_lineFeed (by omega) (by omega), ne_lineFeed (by omega) (by omega)⟩

theorem lineFeed_not_mem_encode {text : List Char} (absent : '\n' ∉ text) :
    (10 : UInt8) ∉ encode text := by
  intro member
  obtain ⟨character, stands, holds⟩ := List.mem_flatMap.mp member
  exact lineFeed_not_mem_encodeChar (fun same => absent (same ▸ stands)) holds

/-- The lines of the bytes are the bytes of the lines. -/
theorem splitAfter_encode (text : List Char) :
    splitAfter 10 (encode text) = (lines text).map encode := by
  have lineFeed : encode ['\n'] = [10] := rfl
  induction text using piecewise_induction '\n' with
  | unclosed line absent =>
      by_cases empty : line = []
      · rw [empty]
        rfl
      have nonempty : encode line ≠ [] := by
        have longer := byteSize_pos empty
        rw [← length_encode] at longer
        exact List.ne_nil_of_length_pos longer
      rw [lines_of_not_mem absent empty,
        splitAfter_of_not_mem (lineFeed_not_mem_encode absent) nonempty]
      rfl
  | closed line later absent ih =>
      have whole : encode (line ++ '\n' :: later) = encode line ++ 10 :: encode later := by
        rw [encode_append]
        rfl
      rw [whole, splitAfter_append_cons (lineFeed_not_mem_encode absent), ih,
        lines_append_cons absent, List.map_cons, encode_append, lineFeed]

/-! ## Files -/

/-- A file that holds a text is read as the text. -/
theorem decodeFile_encode (text : String) : decodeFile (encode text.toList) = .ok text := by
  simp [decodeFile]

end LoxLexer.Text.Utf8
