/-
# The lines of tokens tell what the tokens are

The lexeme and the literal of a token are written as they are, and those of a string
may hold spaces, line feeds and whole lines like the ones of other tokens. Still the
lines of a scan are read back in one way only, whatever follows them. No name of a kind
has a space in it. Behind the name stands a lexeme with a space behind it, and there it
is the segment that the scan has cut, with the literal of the segment. The line of the
end of the file has a space where a lexeme begins, and it is the last.
-/

import LoxLexer.Proofs.Scan.Layout
import LoxLexer.Proofs.Session.Bytes
import LoxLexer.Proofs.Session.LineByLine
import LoxLexer.Proofs.Text.Utf8

namespace LoxLexer

/-! ## Names of kinds -/

namespace TokenKind

theorem ofName?_name (kind : TokenKind) : ofName? kind.name = some kind := by
  cases kind with
  | symbol mark => cases mark <;> rfl
  | keyword reserved => cases reserved <;> rfl
  | identifier | string | number | endOfFile => rfl

/-- Different kinds have different names. -/
theorem name_injective : Function.Injective name := by
  intro one other same
  apply Option.some.inj
  rw [← ofName?_name one, same, ofName?_name]

theorem space_not_mem_name (kind : TokenKind) : ' ' ∉ kind.name.toList := by
  cases kind with
  | symbol mark => cases mark <;> decide
  | keyword reserved => cases reserved <;> decide
  | identifier | string | number | endOfFile => decide

end TokenKind

/-! ## What stands before a separator -/

/-- A text is cut at its first separator in one way. -/
theorem eq_of_append_separator {separator : Char} {front other rest later : List Char}
    (absent : separator ∉ front) (absentOther : separator ∉ other)
    (same : front ++ separator :: rest = other ++ separator :: later) :
    front = other ∧ rest = later := by
  have ends (text : List Char) : EndsRun (· ≠ separator) (separator :: text) := by
    rintro next ⟨⟩
    simp
  have inside {text : List Char} (absent : separator ∉ text) :
      ∀ character ∈ text, decide (character ≠ separator) = true := by
    intro character member
    simpa using ne_of_mem_of_not_mem member absent
  have run := (ends rest).takeWhile_append (inside absent)
  have runOther := (ends later).takeWhile_append (inside absentOther)
  rw [same, runOther] at run
  subst run
  simpa using same

namespace Segment

/-- The segment that a text begins with is the only one. -/
theorem eq_of_append {one other : Segment} {later behind : List Char}
    (wellFormed : one.WellFormed) (ends : one.EndsBefore later)
    (wellFormedOther : other.WellFormed) (endsOther : other.EndsBefore behind)
    (same : one.text ++ later = other.text ++ behind) : one = other := by
  have first := split_text_append wellFormed ends
  rw [same, split_text_append wellFormedOther endsOther] at first
  exact (List.cons.inj first).1.symm

/-- The literal of the token that a segment gives. -/
def literal? : Segment → Option Literal
  | string content => some (.string (String.ofList content))
  | number numeral => some (.number numeral.denotation)
  | _ => none

end Segment

namespace Token

/-- The lines of several tokens. -/
def dump (tokens : List Token) : List Char :=
  tokens.flatMap fun token => (token.display ++ "\n").toList

/-- The literal of a token as its line has it. -/
def literalText (token : Token) : List Char :=
  ((token.literal.map Literal.display).getD "null").toList

theorem dump_cons_append (token : Token) (later : List Token) (behind : List Char) :
    dump (token :: later) ++ behind = token.kind.name.toList ++ ' ' :: (token.lexeme.toList ++
      ' ' :: (token.literalText ++ '\n' :: (dump later ++ behind))) := by
  simp [dump, display, literalText]

/-- Some segment gives the token. -/
def IsCut (keywords : KeywordTable) (token : Token) : Prop :=
  ∃ segment place file, segment.WellFormed ∧
    PlacedSegment.token? keywords file ⟨segment, place⟩ = some token

/-- Tokens as a scan gives them: segments give one after another, and then comes the
end of the file. -/
inductive Complete (keywords : KeywordTable) : List Token → Prop
  | last (file : String) (place : Place) : Complete keywords [Scan.endToken file place]
  | cons {token : Token} {later : List Token} (cut : token.IsCut keywords)
      (rest : Complete keywords later) : Complete keywords (token :: later)

/-- Before a space a token is a segment that ends there, and it has the literal of that. -/
theorem IsCut.exists_segment {keywords : KeywordTable} {token : Token}
    (cut : token.IsCut keywords) (later : List Char) :
    ∃ segment : Segment, segment.WellFormed ∧ segment.EndsBefore (' ' :: later) ∧
      token.lexeme.toList = segment.text ∧ token.literal = segment.literal? ∧
      segment ≠ .blank ' ' := by
  obtain ⟨segment, place, file, wellFormed, gives⟩ := cut
  have separates : isSeparator ' ' = true := rfl
  have ends := PlacedSegment.endsBefore_of_goesOnLike gives segment.endsBefore_nil
    (.separated [] separates later)
  refine ⟨segment, wellFormed, ends, PlacedSegment.lexeme_of_token? gives, ?_, ?_⟩
  · cases segment <;> cases gives <;> rfl
  · rintro rfl
    cases gives

variable {first second : KeywordTable} {one other : Token} {tokens others : List Token}
  {later behind : List Char}

/-- The first of two lines that begin a text is the same. -/
theorem unplaced_eq_of_dump_append (cut : one.IsCut first) (cutOther : other.IsCut second)
    (same : dump (one :: tokens) ++ later = dump (other :: others) ++ behind) :
    one.unplaced = other.unplaced ∧ dump tokens ++ later = dump others ++ behind := by
  rw [dump_cons_append, dump_cons_append] at same
  obtain ⟨names, same⟩ := eq_of_append_separator one.kind.space_not_mem_name
    other.kind.space_not_mem_name same
  have kind : one.kind = other.kind := TokenKind.name_injective (String.toList_inj.mp names)
  obtain ⟨segment, wellFormed, ends, text, literal, -⟩ := cut.exists_segment
    (one.literalText ++ '\n' :: (dump tokens ++ later))
  obtain ⟨segmentOther, wellFormedOther, endsOther, textOther, literalOther, -⟩ :=
    cutOther.exists_segment (other.literalText ++ '\n' :: (dump others ++ behind))
  rw [text, textOther] at same
  obtain rfl := Segment.eq_of_append wellFormed ends wellFormedOther endsOther same
  have lexeme : one.lexeme = other.lexeme := String.toList_inj.mp (text.trans textOther.symm)
  have value : one.literal = other.literal := literal.trans literalOther.symm
  refine ⟨by rw [unplaced, unplaced, kind, lexeme, value], ?_⟩
  rw [literalText, literalText, value] at same
  simpa using same

/-- Where the line of the end of the file stands, a token of a segment does not stand. -/
theorem dump_append_ne (cut : one.IsCut first) (file : String) (place : Place) :
    dump (one :: tokens) ++ later ≠ dump (Scan.endToken file place :: others) ++ behind := by
  intro same
  rw [dump_cons_append, dump_cons_append] at same
  obtain ⟨-, same⟩ := eq_of_append_separator one.kind.space_not_mem_name
    (Scan.endToken file place).kind.space_not_mem_name same
  obtain ⟨segment, wellFormed, ends, text, -, visible⟩ := cut.exists_segment
    (one.literalText ++ '\n' :: (dump tokens ++ later))
  rw [text] at same
  have blank : (Segment.blank ' ').WellFormed := rfl
  exact visible (Segment.eq_of_append wellFormed ends blank trivial same)

/-- Lines of a scan are followed by no other lines of a scan, and they tell their tokens. -/
theorem Complete.dump_append_inj (complete : Complete first tokens)
    (completeOther : Complete second others) (same : dump tokens ++ later = dump others ++ behind) :
    tokens.map unplaced = others.map unplaced ∧ later = behind := by
  induction complete generalizing others with
  | last file place =>
      cases completeOther with
      | last fileOther placeOther => exact ⟨rfl, List.append_cancel_left same⟩
      | cons cutOther => exact absurd same.symm (dump_append_ne cutOther file place)
  | cons cut rest ih =>
      cases completeOther with
      | last fileOther placeOther => exact absurd same (dump_append_ne cut fileOther placeOther)
      | cons cutOther restOther =>
          obtain ⟨token, same⟩ := unplaced_eq_of_dump_append cut cutOther same
          obtain ⟨tokens, text⟩ := ih restOther same
          exact ⟨by rw [List.map_cons, List.map_cons, token, tokens], text⟩

theorem complete_append_endToken (cut : ∀ token ∈ tokens, token.IsCut first) (file : String)
    (place : Place) : Complete first (tokens ++ [Scan.endToken file place]) := by
  induction tokens with
  | nil => exact .last file place
  | cons token later ih =>
      obtain ⟨cut, rest⟩ := List.forall_mem_cons.mp cut
      exact .cons cut (ih rest)

end Token

theorem Scan.complete_tokens (keywords : KeywordTable) (file : String) (source : List Char) :
    Token.Complete keywords (ofSource keywords file source).tokens := by
  obtain ⟨segments, division⟩ := Division.exists_division source
  rw [tokens_ofSource division]
  apply Token.complete_append_endToken
  intro token member
  obtain ⟨⟨segment, place⟩, stands, gives⟩ := List.mem_filterMap.mp member
  obtain ⟨-, -, -, -, wellFormed, -⟩ := division.exists_of_mem_layOut stands
  exact ⟨segment, place, file, wellFormed, gives⟩

namespace Session

theorem tokenBytes_eq_encode (tokens : List Token) :
    tokenBytes tokens = Text.Utf8.encode (Token.dump tokens) := by
  rw [tokenBytes, Token.dump, Text.Utf8.encode, List.flatMap_assoc]
  rfl

/-- A file that comes to its end while tokens are shown has the lines of its tokens at the
beginning of what is accepted. -/
theorem exists_accepted_scanFile {session : Session} {outlet : Outlet} {path : String}
    {content : Except ReadFault String} {report : FileReport}
    (shows : session.showsTokens = true)
    (ended : (outlet.perform (session.scanFile path content)).result = .ok report) :
    Token.Complete .builtin report.tokens ∧
      ∃ diagnostics, (outlet.perform (session.scanFile path content)).accepted =
        Text.Utf8.encode (Token.dump report.tokens) ++ diagnostics := by
  have whole := Outlet.perform_eq_unlimited (session.stopsWhenRefused_scanFile path content) ended
  rw [whole] at ended ⊢
  cases content with
  | error fault => contradiction
  | ok source =>
      have written := accepted_scanFile session path source
      rw [if_pos shows, tokenBytes_eq_encode] at written
      rw [scanFile_ok, Procedure.done, Outlet.perform_unlimited] at ended
      cases ended
      exact ⟨Scan.complete_tokens .., _, written⟩

/-- The lines of the tokens of a source, with any text behind them, tell the kinds, the
lexemes and the literals of its tokens and the text behind, whatever strings hold. So what
scanning a file has written tells its tokens, though diagnostics and more may follow. -/
theorem dump_determines_tokens :
    (∀ (first second : KeywordTable) (file otherFile : String)
        (source other later behind : List Char),
      let tokens := (Scan.ofSource first file source).tokens
      let others := (Scan.ofSource second otherFile other).tokens
      Token.dump tokens ++ later = Token.dump others ++ behind →
        tokens.map Token.unplaced = others.map Token.unplaced ∧ later = behind) ∧
    ∀ (one other : Session) (outlet otherOutlet : Outlet) path otherPath content otherContent
        (report otherReport : FileReport) (later behind : List UInt8),
      let performance := outlet.perform (one.scanFile path content)
      let otherPerformance := otherOutlet.perform (other.scanFile otherPath otherContent)
      one.showsTokens = true → other.showsTokens = true →
      performance.result = .ok report → otherPerformance.result = .ok otherReport →
      performance.accepted ++ later = otherPerformance.accepted ++ behind →
        report.tokens.map Token.unplaced = otherReport.tokens.map Token.unplaced := by
  refine ⟨?_, ?_⟩
  · intro first second file otherFile source other later behind tokens others same
    exact (Scan.complete_tokens ..).dump_append_inj (Scan.complete_tokens ..) same
  · intro one other outlet otherOutlet path otherPath content otherContent report otherReport
      later behind performance otherPerformance shows showsOther ended endedOther same
    obtain ⟨complete, diagnostics, accepted⟩ := exists_accepted_scanFile shows ended
    obtain ⟨completeOther, diagnosticsOther, acceptedOther⟩ :=
      exists_accepted_scanFile showsOther endedOther
    -- Lossy decoding keeps the lines, whatever the bytes behind them are.
    have read := congrArg Text.Utf8.decodeLossy same
    rw [accepted, acceptedOther, List.append_assoc, List.append_assoc,
      Text.Utf8.decodeLossy_encode_append, Text.Utf8.decodeLossy_encode_append] at read
    exact (complete.dump_append_inj completeOther read).1

/-- A string may hold the line of the end of the file, which is then not the last. -/
example : Token.dump (Scan.ofText "\"\nEOF  null\n\"" none).tokens =
    "String \"\nEOF  null\n\" \nEOF  null\n\nEOF  null\n".toList := by
  decide +kernel

end Session

end LoxLexer
