/-
# Lossy decoding keeps lines apart

No byte of a longer character can be taken for a line feed, and no longer character is one.
So a line feed closes whatever stands before it, well-formed or not, and is read as itself:
dividing bytes into lines and decoding each is decoding them all and dividing the text.
-/

import LoxLexer.Proofs.Text.Utf8

namespace LoxLexer.Text.Utf8

/-- The bytes that can come next are above that of a line feed, and so are the values to
which they lead. -/
def Progress.AboveLineFeed : Progress → Prop
  | boundary => True
  | inside value _ lowest _ => 0x80 ≤ lowest ∧ 10 < value * 64 + (lowest - 0x80)

/-! ## One byte -/

section Byte

variable {value later lowest highest byte : Nat}

theorem readByte_complete (low : lowest ≤ byte) (high : byte ≤ highest) :
    readByte (.inside value 0 lowest highest) byte =
      ([some (Char.ofNat (value * 64 + (byte - 0x80)))], .boundary) := by
  simp [readByte, low, high]

theorem readByte_continue (low : lowest ≤ byte) (high : byte ≤ highest) :
    readByte (.inside value (later + 1) lowest highest) byte =
      ([], .inside (value * 64 + (byte - 0x80)) later 0x80 0xBF) := by
  simp [readByte, low, high]

/-- A byte that does not continue the character begins the next part. -/
theorem readByte_break (outside : ¬ (lowest ≤ byte ∧ byte ≤ highest)) :
    readByte (.inside value later lowest highest) byte =
      (none :: (beginPart byte).1, (beginPart byte).2) := by
  simp [readByte, outside]

/-- A byte that begins a part is a character, or malformed, or a longer character begins
with it that is above a line feed. -/
theorem beginPart_cases (byte : Nat) :
    (byte < 0x80 ∧ beginPart byte = ([some (Char.ofNat byte)], .boundary)) ∨
      beginPart byte = ([none], .boundary) ∨
      ∃ value later lowest highest, beginPart byte = ([], .inside value later lowest highest) ∧
        (Progress.inside value later lowest highest).AboveLineFeed := by
  generalize read : beginPart byte = result
  unfold beginPart at read
  by_cases single : byte < 0x80
  · rw [if_pos single] at read
    exact .inl ⟨single, read.symm⟩
  right
  rw [if_neg single] at read
  by_cases early : byte < 0xC2
  · rw [if_pos early] at read
    exact .inl read.symm
  rw [if_neg early] at read
  repeat' split at read
  any_goals exact .inr ⟨_, _, _, _, read.symm, by omega, by omega⟩
  exact .inl read.symm

theorem aboveLineFeed_beginPart (byte : Nat) : (beginPart byte).2.AboveLineFeed := by
  rcases beginPart_cases byte with ⟨-, read⟩ | read | ⟨value, later, lowest, highest, read, above⟩
  · rw [read]
    trivial
  · rw [read]
    trivial
  · rwa [read]

/-- What is above a line feed stays above it when more bits are read. -/
theorem Progress.AboveLineFeed.next {progress : Progress} (above : progress.AboveLineFeed)
    (byte : Nat) : (readByte progress byte).2.AboveLineFeed := by
  cases progress with
  | boundary => exact aboveLineFeed_beginPart byte
  | inside value later lowest highest =>
      obtain ⟨low, large⟩ := above
      by_cases continues : lowest ≤ byte ∧ byte ≤ highest
      · cases later with
        | zero =>
            rw [readByte_complete continues.1 continues.2]
            trivial
        | succ later =>
            rw [readByte_continue continues.1 continues.2]
            exact ⟨Nat.le_refl _, by omega⟩
      · rw [readByte_break continues]
        exact aboveLineFeed_beginPart byte

theorem ofNat_ne_lineFeed {code : Nat} (differs : code ≠ 10) : Char.ofNat code ≠ '\n' := by
  by_cases valid : code.isValidChar
  · have value : (Char.ofNat code).toNat = code := by
      rw [Char.ofNat, dif_pos valid]
      rfl
    intro same
    rw [same] at value
    exact differs value.symm
  · rw [Char.ofNat, dif_neg valid]
    decide

theorem lineFeed_not_mem_beginPart (differs : byte ≠ 10) : some '\n' ∉ (beginPart byte).1 := by
  rcases beginPart_cases byte with ⟨-, read⟩ | read | ⟨value, later, lowest, highest, read, -⟩
  · rw [read, List.mem_singleton, Option.some_inj]
    exact Ne.symm (ofNat_ne_lineFeed differs)
  · rw [read]
    decide
  · rw [read]
    exact List.not_mem_nil

/-- Only its own byte is read as a line feed. -/
theorem Progress.AboveLineFeed.lineFeed_not_mem_readByte {progress : Progress}
    (above : progress.AboveLineFeed) (differs : byte ≠ 10) :
    some '\n' ∉ (readByte progress byte).1 := by
  cases progress with
  | boundary => exact lineFeed_not_mem_beginPart differs
  | inside value later lowest highest =>
      obtain ⟨low, large⟩ := above
      by_cases continues : lowest ≤ byte ∧ byte ≤ highest
      · cases later with
        | zero =>
            have longer : value * 64 + (byte - 0x80) ≠ 10 := by omega
            rw [readByte_complete continues.1 continues.2]
            rw [List.mem_singleton, Option.some_inj]
            exact Ne.symm (ofNat_ne_lineFeed longer)
        | succ later =>
            rw [readByte_continue continues.1 continues.2]
            exact List.not_mem_nil
      · rw [readByte_break continues, List.mem_cons, not_or]
        exact ⟨nofun, lineFeed_not_mem_beginPart differs⟩

end Byte

/-! ## All bytes -/

theorem partsFrom_cons (progress : Progress) (byte : UInt8) (rest : List UInt8) :
    partsFrom progress (byte :: rest) =
      (readByte progress byte.toNat).1 ++ partsFrom (readByte progress byte.toNat).2 rest := by
  cases progress <;> rfl

/-- A line feed closes what is malformed before it. -/
theorem Progress.AboveLineFeed.partsFrom_lineFeed {progress : Progress}
    (above : progress.AboveLineFeed) (later : List UInt8) :
    partsFrom progress (10 :: later) = partsFrom progress [] ++ some '\n' :: parts later := by
  cases progress with
  | boundary => exact partsFrom_single (by decide)
  | inside value more lowest highest =>
      obtain ⟨low, -⟩ := above
      have ten : (10 : UInt8).toNat = 10 := rfl
      have outside : ¬ (lowest ≤ (10 : UInt8).toNat ∧ (10 : UInt8).toNat ≤ highest) := by omega
      rw [partsFrom_cons, readByte_break outside]
      rfl

theorem Progress.AboveLineFeed.partsFrom_append {progress : Progress}
    (above : progress.AboveLineFeed) (line later : List UInt8) :
    partsFrom progress (line ++ 10 :: later) =
      partsFrom progress line ++ some '\n' :: parts later := by
  induction line generalizing progress with
  | nil => exact above.partsFrom_lineFeed later
  | cons byte line ih =>
      rw [List.cons_append, partsFrom_cons, partsFrom_cons, ih (above.next byte.toNat),
        List.append_assoc]

theorem Progress.AboveLineFeed.lineFeed_not_mem_partsFrom {progress : Progress}
    (above : progress.AboveLineFeed) {bytes : List UInt8} (absent : (10 : UInt8) ∉ bytes) :
    some '\n' ∉ partsFrom progress bytes := by
  induction bytes generalizing progress with
  | nil => cases progress <;> simp [partsFrom]
  | cons byte rest ih =>
      obtain ⟨differs, absent⟩ := not_or.mp (List.mem_cons.not.mp absent)
      have unequal : byte.toNat ≠ 10 := fun same => differs (UInt8.toNat_inj.mp same.symm)
      rw [partsFrom_cons, List.mem_append, not_or]
      exact ⟨above.lineFeed_not_mem_readByte unequal, ih (above.next byte.toNat) absent⟩

/-- A character that has begun comes out whole or malformed. -/
theorem partsFrom_inside_ne_nil (value later lowest highest : Nat) (bytes : List UInt8) :
    partsFrom (.inside value later lowest highest) bytes ≠ [] := by
  induction bytes generalizing value later lowest highest with
  | nil => exact List.cons_ne_nil _ _
  | cons byte rest ih =>
      rw [partsFrom_cons]
      by_cases continues : lowest ≤ byte.toNat ∧ byte.toNat ≤ highest
      · cases later with
        | zero =>
            rw [readByte_complete continues.1 continues.2]
            exact List.cons_ne_nil _ _
        | succ later =>
            rw [readByte_continue continues.1 continues.2]
            exact ih _ _ _ _
      · rw [readByte_break continues]
        exact List.cons_ne_nil _ _

theorem parts_cons_ne_nil (byte : UInt8) (rest : List UInt8) : parts (byte :: rest) ≠ [] := by
  rw [parts, partsFrom_cons, readByte]
  rcases beginPart_cases byte.toNat with
    ⟨-, read⟩ | read | ⟨value, later, lowest, highest, read, -⟩
  · rw [read]
    exact List.cons_ne_nil _ _
  · rw [read]
    exact List.cons_ne_nil _ _
  · rw [read]
    exact partsFrom_inside_ne_nil value later lowest highest rest

/-! ## Lines -/

/-- What stands before a line feed is decoded by itself, and so is what stands behind it. -/
theorem decodeLossy_append_lineFeed (line later : List UInt8) :
    decodeLossy (line ++ 10 :: later) = decodeLossy line ++ '\n' :: decodeLossy later := by
  have boundary : Progress.boundary.AboveLineFeed := trivial
  rw [decodeLossy, parts, boundary.partsFrom_append, List.map_append, List.map_cons]
  rfl

theorem lineFeed_not_mem_decodeLossy {bytes : List UInt8} (absent : (10 : UInt8) ∉ bytes) :
    '\n' ∉ decodeLossy bytes := by
  have boundary : Progress.boundary.AboveLineFeed := trivial
  intro member
  obtain ⟨part, stands, shown⟩ := List.mem_map.mp member
  cases part with
  | none => contradiction
  | some character =>
      obtain rfl : character = '\n' := shown
      exact boundary.lineFeed_not_mem_partsFrom absent stands

theorem decodeLossy_eq_nil_iff {bytes : List UInt8} : decodeLossy bytes = [] ↔ bytes = [] := by
  rw [decodeLossy, List.map_eq_nil_iff]
  cases bytes with
  | nil => exact iff_of_true rfl rfl
  | cons byte rest => exact iff_of_false (parts_cons_ne_nil byte rest) (List.cons_ne_nil _ _)

/-- Decoding commutes with dividing into lines. -/
theorem lines_decodeLossy (bytes : List UInt8) :
    lines (decodeLossy bytes) = (splitAfter 10 bytes).map decodeLossy := by
  induction bytes using piecewise_induction (10 : UInt8) with
  | unclosed line absent =>
      by_cases empty : line = []
      · rw [empty]
        rfl
      · have nonempty : decodeLossy line ≠ [] := decodeLossy_eq_nil_iff.not.mpr empty
        rw [lines_of_not_mem (lineFeed_not_mem_decodeLossy absent) nonempty,
          splitAfter_of_not_mem absent empty]
        rfl
  | closed line later absent ih =>
      rw [decodeLossy_append_lineFeed, splitAfter_append_cons absent,
        lines_append_cons (lineFeed_not_mem_decodeLossy absent), ih, List.map_cons,
        decodeLossy_append_lineFeed]
      rfl

/-- A character that is cut off by a line feed, and a byte that begins none. -/
example : lines (decodeLossy [0xE2, 0x82, 10, 0x80]) = [['\ufffd', '\n'], ['\ufffd']] := by
  decide +kernel

/-- A line that is closed is decoded to a line that is closed. -/
theorem getLast?_decodeLossy {bytes : List UInt8} :
    (decodeLossy bytes).getLast? = some '\n' ↔ bytes.getLast? = some 10 := by
  induction bytes using piecewise_induction (10 : UInt8) with
  | unclosed line absent =>
      apply iff_of_false
      · exact fun ended => lineFeed_not_mem_decodeLossy absent (List.mem_of_getLast? ended)
      · exact fun ended => absent (List.mem_of_getLast? ended)
  | closed line later absent ih =>
      rw [decodeLossy_append_lineFeed]
      by_cases ended : later = []
      · rw [ended]
        exact iff_of_true List.getLast?_concat List.getLast?_concat
      · have goesOn : decodeLossy later ≠ [] := decodeLossy_eq_nil_iff.not.mpr ended
        rw [List.append_cons, List.getLast?_append_of_ne_nil _ goesOn, List.append_cons,
          List.getLast?_append_of_ne_nil _ ended]
        exact ih

end LoxLexer.Text.Utf8
