/-
# Byte offsets and lines of a text

A text is a list of characters. Places in a text are counted in bytes of its
UTF-8 form, so this module measures a text in bytes, counts its line feeds and
cuts it at a byte offset. A cut exists exactly where a character begins or the
text ends: an offset inside a character of several bytes has none.

A line reaches to its line feed, which belongs to it, or to the end of the text.
Every byte of a text lies in one line. The offset at the end of a text lies in
the last line unless that line is closed by a line feed; then it begins a fresh
line with no text.
-/

namespace LoxLexer.Text

/-- The number of bytes that a text takes in UTF-8. -/
def byteSize : List Char → Nat
  | [] => 0
  | character :: rest => character.utf8Size + byteSize rest

@[simp] theorem byteSize_nil : byteSize [] = 0 := rfl

@[simp] theorem byteSize_cons (character : Char) (rest : List Char) :
    byteSize (character :: rest) = character.utf8Size + byteSize rest := rfl

@[simp] theorem byteSize_append (first second : List Char) :
    byteSize (first ++ second) = byteSize first + byteSize second := by
  induction first with
  | nil => simp
  | cons character rest ih => simp [ih, Nat.add_assoc]

/-- The number of line feeds in a text. -/
def lineFeeds (text : List Char) : Nat := text.count '\n'

@[simp] theorem lineFeeds_nil : lineFeeds [] = 0 := rfl

@[simp] theorem lineFeeds_append (first second : List Char) :
    lineFeeds (first ++ second) = lineFeeds first + lineFeeds second := by
  simp [lineFeeds]

/-- Cuts a text at a byte offset into what comes before it and what comes after
it. The result is `none` when the offset is inside a character or beyond the
end of the text. -/
def splitAtByte? : Nat → List Char → Option (List Char × List Char)
  | 0, text => some ([], text)
  | _ + 1, [] => none
  | offset + 1, character :: rest =>
    if character.utf8Size ≤ offset + 1 then
      (splitAtByte? (offset + 1 - character.utf8Size) rest).map fun (before, after) =>
        (character :: before, after)
    else
      none

/-- A cut gives back the text, and the part before it has the size asked for. -/
theorem append_eq_of_splitAtByte? {offset : Nat} {text before after : List Char}
    (cut : splitAtByte? offset text = some (before, after)) :
    before ++ after = text ∧ byteSize before = offset := by
  induction text generalizing offset before with
  | nil =>
      cases offset with
      | zero => simp_all [splitAtByte?]
      | succ offset => simp [splitAtByte?] at cut
  | cons character rest ih =>
      cases offset with
      | zero => simp_all [splitAtByte?]
      | succ offset =>
          simp only [splitAtByte?] at cut
          split at cut
          · obtain ⟨⟨front, back⟩, found, equal⟩ := Option.map_eq_some_iff.mp cut
            obtain ⟨rfl, rfl⟩ := Prod.mk.injEq .. ▸ equal
            obtain ⟨whole, size⟩ := ih found
            exact ⟨by simp [whole], by simp only [byteSize_cons]; omega⟩
          · simp at cut

/-- Every way to divide a text is found by the cut at the size of its first part. -/
theorem splitAtByte?_append (before after : List Char) :
    splitAtByte? (byteSize before) (before ++ after) = some (before, after) := by
  induction before with
  | nil => cases after <;> rfl
  | cons character rest ih =>
      have positive := character.utf8Size_pos
      obtain ⟨size, hsize⟩ : ∃ size, character.utf8Size + byteSize rest = size + 1 :=
        ⟨character.utf8Size + byteSize rest - 1, by omega⟩
      have remaining : size + 1 - character.utf8Size = byteSize rest := by omega
      have fits : character.utf8Size ≤ size + 1 := by omega
      simp [hsize, splitAtByte?, fits, remaining, ih]

/-! ## Lines -/

/-- Divides a list after each occurrence of a separator. Every piece ends with the
separator, except that the last one may have none. -/
def splitAfter {α : Type} [DecidableEq α] (separator : α) : List α → List (List α)
  | [] => []
  | member :: rest =>
    if member = separator then [member] :: splitAfter separator rest
    else
      match splitAfter separator rest with
      | [] => [[member]]
      | piece :: later => (member :: piece) :: later

/-- The pieces together are the list. -/
theorem flatten_splitAfter {α : Type} [DecidableEq α] (separator : α) (list : List α) :
    (splitAfter separator list).flatten = list := by
  induction list with
  | nil => rfl
  | cons member rest ih =>
      unfold splitAfter
      split
      · simp [ih]
      · split <;> simp_all

/-- The lines of a text, each with its line feed. -/
def lines (text : List Char) : List (List Char) := splitAfter '\n' text

/-- A line of a text together with an offset in it. -/
structure LineSpot where
  /-- The number of the line, counted from one. -/
  number : Nat
  text : List Char
  column : Nat
  deriving DecidableEq

/-- Finds an offset in lines of which the first one has the given number. -/
def locateInLines : Nat → List (List Char) → Nat → Option LineSpot
  | number, [], offset => if offset = 0 then some ⟨number, [], 0⟩ else none
  | number, line :: later, offset =>
    if offset < byteSize line ∨ (offset = byteSize line ∧ line.getLast? ≠ some '\n') then
      some ⟨number, line, offset⟩
    else
      locateInLines (number + 1) later (offset - byteSize line)

/-- Finds the line of a byte offset; there is none beyond the end of the text. -/
def locate (text : List Char) (offset : Nat) : Option LineSpot :=
  locateInLines 1 (lines text) offset

end LoxLexer.Text
