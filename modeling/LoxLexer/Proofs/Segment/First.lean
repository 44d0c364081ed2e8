/-
# The first segment is the one that keeps the rules

The first segment of a text is well-formed and ends before the text behind it,
and every well-formed segment that ends before what follows it is the first one.
-/

import LoxLexer.Proofs.Segment.Grammar
import Mathlib.Data.List.TakeWhile

namespace LoxLexer

namespace Symbol

theorem ofText?_text (mark : Symbol) : ofText? mark.text = some mark := by
  cases mark <;> rfl

/-- A symbol has one character or two. -/
theorem text_eq_one_or_two (mark : Symbol) :
    (∃ only, mark.text = [only]) ∨ ∃ initial second, mark.text = [initial, second] := by
  cases mark <;> simp [text]

/-- What a symbol begins with is a symbol too. -/
theorem exists_text_eq_singleton {mark : Symbol} {initial : Char}
    (begins : mark.text.head? = some initial) : ∃ short : Symbol, short.text = [initial] := by
  cases mark <;> cases begins
  case leftParen => exact ⟨leftParen, rfl⟩
  case rightParen => exact ⟨rightParen, rfl⟩
  case leftBrace => exact ⟨leftBrace, rfl⟩
  case rightBrace => exact ⟨rightBrace, rfl⟩
  case comma => exact ⟨comma, rfl⟩
  case dot => exact ⟨dot, rfl⟩
  case minus => exact ⟨minus, rfl⟩
  case plus => exact ⟨plus, rfl⟩
  case semicolon => exact ⟨semicolon, rfl⟩
  case slash => exact ⟨slash, rfl⟩
  case star => exact ⟨star, rfl⟩
  case bang | bangEqual => exact ⟨bang, rfl⟩
  case equal | equalEqual => exact ⟨equal, rfl⟩
  case greater | greaterEqual => exact ⟨greater, rfl⟩
  case less | lessEqual => exact ⟨less, rfl⟩

theorem ofText?_eq_none_iff {text : List Char} :
    ofText? text = none ↔ ∀ mark : Symbol, mark.text ≠ text := by
  constructor
  · intro absent mark written
    rw [← written, ofText?_text] at absent
    contradiction
  · intro unwritten
    cases found : ofText? text with
    | none => rfl
    | some mark => exact absurd (text_of_ofText? found) (unwritten mark)

/-- A symbol that does not grow is the longest one. -/
theorem longestPrefix?_text_append {mark : Symbol} {later : List Char}
    (longest : ∀ next ∈ later.head?, ¬ mark.GrowsBy next) :
    longestPrefix? (mark.text ++ later) = some mark := by
  rcases text_eq_one_or_two mark with ⟨only, written⟩ | ⟨initial, second, written⟩
  · have short : ofText? [only] = some mark := written ▸ ofText?_text mark
    cases later with
    | nil => simp [longestPrefix?, written, short]
    | cons next rest =>
        have long : ofText? [only, next] = none := by
          rw [ofText?_eq_none_iff]
          intro longer both
          exact longest next rfl ⟨longer, by rw [both, written]; rfl⟩
        simp [longestPrefix?, written, short, long]
  · have both : ofText? [initial, second] = some mark := written ▸ ofText?_text mark
    simp [longestPrefix?, written, both]

/-- The longest symbol that a text begins with does not grow. -/
theorem not_growsBy_of_longestPrefix? {mark : Symbol} {later : List Char}
    (found : longestPrefix? (mark.text ++ later) = some mark) :
    ∀ next ∈ later.head?, ¬ mark.GrowsBy next := by
  rintro next front ⟨longer, grown⟩
  obtain ⟨rest, rfl⟩ : ∃ rest, later = next :: rest := List.head?_eq_some_iff.mp front
  rcases text_eq_one_or_two mark with ⟨only, written⟩ | ⟨initial, second, written⟩
  · have long : ofText? [only, next] = some longer := by
      rw [← ofText?_text longer, grown, written]
      rfl
    have same : longer = mark := by simpa [longestPrefix?, written, long] using found
    rw [same] at grown
    simpa using congrArg List.length grown
  · rcases text_eq_one_or_two longer with ⟨_, short⟩ | ⟨_, _, short⟩ <;>
      simpa [written, short] using congrArg List.length grown

/-- A text begins with no symbol if and only if no symbol has its first character. -/
theorem longestPrefix?_eq_none_iff {character : Char} {rest : List Char} :
    longestPrefix? (character :: rest) = none ↔
      ∀ mark : Symbol, mark.text.head? ≠ some character := by
  rw [longestPrefix?, Option.or_eq_none_iff, ofText?_eq_none_iff, ofText?_eq_none_iff]
  constructor
  · rintro ⟨-, unwritten⟩ mark begins
    obtain ⟨short, written⟩ := exists_text_eq_singleton begins
    exact unwritten short written
  · intro unbegun
    constructor
    · intro mark written
      apply unbegun mark
      simp [written]
    · intro mark written
      apply unbegun mark
      simp [written]

/-- Symbols begin with characters of a class of their own. -/
theorem head_text_class {mark : Symbol} {initial : Char} (begins : mark.text.head? = some initial) :
    isSeparator initial = false ∧ initial ≠ '"' ∧ isDigit initial = false ∧
      isLetter initial = false := by
  cases mark <;> cases begins <;> decide

theorem eq_slash_of_head_text {mark : Symbol} (begins : mark.text.head? = some '/') :
    mark = slash := by
  cases mark <;> simp [text] at begins ⊢

end Symbol

/-! ## Classes of characters do not overlap -/

theorem isDigit_iff {character : Char} :
    isDigit character = true ↔ 48 ≤ character.toNat ∧ character.toNat ≤ 57 :=
  Bool.and_eq_true_iff.trans (and_congr decide_eq_true_iff decide_eq_true_iff)

theorem isLetter_iff {character : Char} :
    isLetter character = true ↔
      (65 ≤ character.toNat ∧ character.toNat ≤ 90) ∨
        (97 ≤ character.toNat ∧ character.toNat ≤ 122) ∨ character = '_' := by
  have upper : character.isUpper = true ↔ 65 ≤ character.toNat ∧ character.toNat ≤ 90 :=
    decide_eq_true_iff
  have lower : character.isLower = true ↔ 97 ≤ character.toNat ∧ character.toNat ≤ 122 :=
    Bool.and_eq_true_iff.trans (and_congr decide_eq_true_iff decide_eq_true_iff)
  have alpha : character.isAlpha = (character.isUpper || character.isLower) := rfl
  rw [isLetter, alpha, Bool.or_eq_true, Bool.or_eq_true, upper, lower, decide_eq_true_eq, or_assoc]

/-- What continues a word neither separates tokens nor begins a comment or a string. -/
theorem unmarked_of_isWordCharacter {character : Char}
    (inside : isWordCharacter character = true) :
    isSeparator character = false ∧ character ≠ '/' ∧ character ≠ '"' := by
  refine ⟨?_, ?_, ?_⟩
  · cases separates : isSeparator character with
    | false => rfl
    | true =>
        simp only [isSeparator, Bool.or_eq_true, decide_eq_true_eq] at separates
        rcases separates with ((rfl | rfl) | rfl) | rfl <;> contradiction
  · rintro rfl
    contradiction
  · rintro rfl
    contradiction

theorem isWordCharacter_of_isDigit {character : Char} (digit : isDigit character = true) :
    isWordCharacter character = true := by
  simp [isWordCharacter, digit]

theorem isWordCharacter_of_isLetter {character : Char} (letter : isLetter character = true) :
    isWordCharacter character = true := by
  simp [isWordCharacter, letter]

theorem isDigit_eq_false_of_isLetter {character : Char} (letter : isLetter character = true) :
    isDigit character = false := by
  rw [Bool.eq_false_iff]
  intro digit
  rw [isDigit_iff] at digit
  rcases isLetter_iff.mp letter with upper | lower | rfl
  · omega
  · omega
  · exact absurd digit.2 (by decide)

namespace Segment

theorem first_of_isSeparator {character : Char} (separates : isSeparator character = true)
    (rest : List Char) : first character rest = blank character := by
  simp [first, separates]

theorem first_of_isDigit {character : Char} (digit : isDigit character = true)
    (rest : List Char) : first character rest = number (longestNumeral (character :: rest)) := by
  obtain ⟨blank, slash, quote⟩ := unmarked_of_isWordCharacter (isWordCharacter_of_isDigit digit)
  simp [first, blank, slash, quote, digit]

theorem first_of_isLetter {character : Char} (letter : isLetter character = true)
    (rest : List Char) :
    first character rest = word (character :: rest.takeWhile isWordCharacter) := by
  obtain ⟨blank, slash, quote⟩ := unmarked_of_isWordCharacter (isWordCharacter_of_isLetter letter)
  simp [first, blank, slash, quote, isDigit_eq_false_of_isLetter letter, letter]

/-! ## The first segment keeps the rules -/

theorem longestNumeral_wellFormed {character : Char} {rest : List Char}
    (digit : isDigit character = true) :
    (number (longestNumeral (character :: rest))).WellFormed := by
  refine ⟨by simp [longestNumeral, digit], fun _ => List.mem_takeWhile_imp, ?_⟩
  simp only [longestNumeral]
  split
  · exact fun _ => List.mem_takeWhile_imp
  · simp

theorem first_wellFormed (character : Char) (rest : List Char) :
    (first character rest).WellFormed := by
  fun_cases first character rest with
  | case1 separates => exact separates
  | case2 =>
      intro member
      simpa using List.mem_takeWhile_imp member
  | case3 =>
      intro member
      simpa using List.mem_takeWhile_imp member
  | case4 _ _ _ open_ => exact open_
  | case5 _ _ _ digit => exact longestNumeral_wellFormed digit
  | case6 _ _ _ _ letter =>
      refine ⟨⟨character, rfl, letter⟩, ?_⟩
      intro later member
      rcases List.mem_cons.mp member with rfl | member
      · simp [isWordCharacter, letter]
      · exact List.mem_takeWhile_imp member
  | case7 => trivial
  | case8 blank _ quote digit letter none =>
      simp only [Bool.not_eq_true] at blank digit letter
      exact ⟨blank, quote, digit, letter, Symbol.longestPrefix?_eq_none_iff.mp none⟩

theorem longestNumeral_endsBefore {text later : List Char}
    (whole : (longestNumeral text).text ++ later = text) :
    (number (longestNumeral text)).EndsBefore later := by
  have digits : text.takeWhile isDigit ++ text.dropWhile isDigit = text :=
    List.takeWhile_append_dropWhile
  unfold Number.Numeral.text at whole
  split at whole
  · next noFraction =>
      have ends := endsRun_of_takeWhile_append whole
      refine ⟨ends, ?_⟩
      intro _ point
      -- A point with a digit behind it would have made a fraction.
      obtain ⟨rest, rfl⟩ : ∃ rest, later = '.' :: rest := List.head?_eq_some_iff.mp point
      have behind : text.dropWhile isDigit = '.' :: rest :=
        List.append_cancel_left (digits.trans whole.symm)
      simp only [longestNumeral, behind] at noFraction
      exact takeWhile_eq_nil_iff.mp noFraction
  · next digit more fraction =>
      constructor
      · simp only [longestNumeral] at fraction whole
        split at fraction
        · next rest behind =>
            rw [behind] at digits
            rw [← fraction, List.append_assoc] at whole
            have tail : '.' :: (rest.takeWhile isDigit ++ later) = '.' :: rest :=
              List.append_cancel_left (whole.trans digits.symm)
            exact endsRun_of_takeWhile_append (List.cons.inj tail).2
        · contradiction
      · intro noFraction
        rw [fraction] at noFraction
        contradiction

/-- What stands behind the first segment does not continue it. -/
theorem first_endsBefore {character : Char} {rest later : List Char}
    (whole : (first character rest).text ++ later = character :: rest) :
    (first character rest).EndsBefore later := by
  revert whole
  fun_cases first character rest with
  | case1 => exact fun _ => trivial
  | case2 _ slashes =>
      intro whole
      obtain ⟨rfl, second⟩ := slashes
      obtain ⟨remark, rfl⟩ : ∃ remark, rest = '/' :: remark := List.head?_eq_some_iff.mp second
      simp only [text, List.tail_cons, List.cons_append, List.cons.injEq, true_and] at whole
      exact endsRun_of_takeWhile_append whole
  | case3 => exact fun _ => trivial
  | case4 =>
      intro whole
      simp only [text, List.cons_append, List.cons.injEq] at whole
      exact List.append_right_eq_self.mp whole.2
  | case5 => exact longestNumeral_endsBefore
  | case6 _ _ _ _ letter =>
      intro whole
      simp only [text, List.cons_append, List.cons.injEq, true_and] at whole
      exact endsRun_of_takeWhile_append whole
  | case7 _ comment _ _ _ mark found =>
      intro whole
      simp only [text] at whole
      rw [← whole] at found
      refine ⟨Symbol.not_growsBy_of_longestPrefix? found, ?_⟩
      rintro rfl second
      obtain ⟨rfl, rfl⟩ := List.cons.inj whole
      exact comment ⟨rfl, second⟩
  | case8 => exact fun _ => trivial

/-! ## The rules determine the first segment -/

theorem longestNumeral_text_append {numeral : Number.Numeral} {later : List Char}
    (wellFormed : (number numeral).WellFormed) (ends : (number numeral).EndsBefore later) :
    longestNumeral (numeral.text ++ later) = numeral := by
  obtain ⟨whole, fraction⟩ := numeral
  obtain ⟨-, wholeDigits, fractionDigits⟩ := wellFormed
  obtain ⟨ends, point⟩ := ends
  cases fraction with
  | nil =>
      have taken := ends.takeWhile_append wholeDigits
      have behind := ends.dropWhile_append wholeDigits
      simp only [Number.Numeral.text, longestNumeral, taken, behind]
      split
      · next rest =>
          have none : rest.takeWhile isDigit = [] := takeWhile_eq_nil_iff.mpr (point rfl rfl)
          rw [none]
      · rfl
  | cons digit more =>
      have stops : EndsRun isDigit ('.' :: (digit :: more ++ later)) := by
        rintro next ⟨⟩
        rfl
      have taken := stops.takeWhile_append wholeDigits
      have behind := stops.dropWhile_append wholeDigits
      have tail := ends.takeWhile_append fractionDigits
      simp only [Number.Numeral.text, longestNumeral, List.append_assoc, List.cons_append] at *
      simp only [taken, behind, tail]

theorem forall_ne_of_not_mem {mark : Char} {text : List Char} (absent : mark ∉ text) :
    ∀ character ∈ text, decide (character ≠ mark) = true :=
  fun _ member => decide_eq_true fun same => absent (same ▸ member)

theorem first_eq_symbol {mark : Symbol} {character : Char} {rest later : List Char}
    (ends : (symbol mark).EndsBefore later) (whole : mark.text ++ later = character :: rest) :
    first character rest = symbol mark := by
  have begins : mark.text.head? = some character := by
    rcases mark.text_eq_one_or_two with ⟨only, written⟩ | ⟨initial, second, written⟩ <;>
      rw [written] at whole ⊢ <;> exact congrArg List.head? whole
  obtain ⟨blank, quote, digit, letter⟩ := Symbol.head_text_class begins
  have comment : ¬ (character = '/' ∧ rest.head? = some '/') := by
    rintro ⟨rfl, second⟩
    obtain rfl := Symbol.eq_slash_of_head_text begins
    obtain rfl := (List.cons.inj whole).2
    exact ends.2 rfl second
  have longest := Symbol.longestPrefix?_text_append ends.1
  rw [whole] at longest
  simp [first, blank, comment, quote, digit, letter, longest]

theorem first_eq_number {numeral : Number.Numeral} {character : Char} {rest later : List Char}
    (wellFormed : (number numeral).WellFormed) (ends : (number numeral).EndsBefore later)
    (whole : numeral.text ++ later = character :: rest) :
    first character rest = number numeral := by
  have longest := longestNumeral_text_append wellFormed ends
  rw [whole] at longest
  have digit : isDigit character = true := by
    cases digit : isDigit character with
    | true => rfl
    | false => exact absurd (by simp [← longest, longestNumeral, digit]) wellFormed.1
  rw [first_of_isDigit digit, longest]

theorem first_eq_word {letters : List Char} {character : Char} {rest later : List Char}
    (wellFormed : (word letters).WellFormed) (ends : (word letters).EndsBefore later)
    (whole : letters ++ later = character :: rest) : first character rest = word letters := by
  obtain ⟨⟨initial, front, letter⟩, inside⟩ := wellFormed
  obtain ⟨more, rfl⟩ : ∃ more, letters = initial :: more := List.head?_eq_some_iff.mp front
  obtain ⟨rfl, rfl⟩ := List.cons.inj whole
  have taken := ends.takeWhile_append fun later member =>
    inside later (List.mem_cons_of_mem _ member)
  rw [first_of_isLetter letter]
  exact congrArg (fun run => word (initial :: run)) taken

/-- A well-formed segment that ends before what follows it is the first one. -/
theorem first_eq {segment : Segment} {character : Char} {rest later : List Char}
    (wellFormed : segment.WellFormed) (ends : segment.EndsBefore later)
    (whole : segment.text ++ later = character :: rest) : first character rest = segment := by
  cases segment with
  | blank only =>
      obtain ⟨rfl, rfl⟩ := List.cons.inj whole
      simp only [WellFormed] at wellFormed
      simp [first, wellFormed]
  | comment remark =>
      obtain ⟨rfl, rfl⟩ := List.cons.inj whole
      have taken := ends.takeWhile_append (forall_ne_of_not_mem wellFormed)
      simpa [first, isSeparator] using taken
  | symbol mark => exact first_eq_symbol ends whole
  | string content =>
      simp only [text, List.cons_append, List.append_assoc, List.nil_append] at whole
      obtain ⟨rfl, rfl⟩ := List.cons.inj whole
      have closes : EndsRun (fun next => next ≠ '"') ('"' :: later) := by
        rintro next ⟨⟩
        rfl
      have taken := closes.takeWhile_append (forall_ne_of_not_mem wellFormed)
      simpa [first, isSeparator] using taken
  | number numeral => exact first_eq_number wellFormed ends whole
  | word letters => exact first_eq_word wellFormed ends whole
  | stray only =>
      obtain ⟨rfl, rfl⟩ := List.cons.inj whole
      obtain ⟨blank, quote, digit, letter, unbegun⟩ := wellFormed
      have slash : only ≠ '/' := by
        rintro rfl
        exact unbegun .slash rfl
      have none : Symbol.longestPrefix? (only :: later) = none :=
        Symbol.longestPrefix?_eq_none_iff.mpr unbegun
      simp [first, blank, slash, quote, digit, letter, none]
  | openString content =>
      obtain ⟨rfl, rfl⟩ := List.cons.inj whole
      obtain rfl : later = [] := ends
      simp only [WellFormed] at wellFormed
      simp [first, isSeparator, wellFormed]

end Segment

end LoxLexer
