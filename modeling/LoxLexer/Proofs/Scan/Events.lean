/-
# The events of a scan

A scan tells of the segments of its source one after another: of a token with its kind,
lexeme and line, of a comment with its text and line, and of what is wrong in the words in
which it is displayed. Then it tells of the end of the file, and last of its own end, with as
many tokens and diagnostics as it told of and as many lines as the source has.
-/

import LoxLexer.Proofs.Scan.Findings

namespace LoxLexer

/-! ## What an event says -/

namespace Event

/-- The kind, the lexeme and the line, if a token is told of. -/
def token? : Event → Option (TokenKind × String × Nat)
  | token kind lexeme line => some (kind, lexeme, line)
  | _ => none

/-- The line and the text, if a comment is told of. -/
def comment? : Event → Option (Nat × String)
  | skippedComment line text => some (line, text)
  | _ => none

/-- The message, if the event is a warning. -/
def warning? (event : Event) : Option String :=
  if event.level = .warning then some event.message else none

/-- The name, the severity and the line of a diagnostic, if it is told that it is shown. -/
def shown? : Event → Option (String × Bool × Nat)
  | writingDiagnostic diagnostic =>
    some (diagnostic.cause.name, diagnostic.cause.isLexical, diagnostic.line)
  | _ => none

/-- The event of a token. -/
def ofToken (found : Token) : Event := token found.kind found.lexeme found.line

end Event

/-! ## What a finding says -/

namespace Finding

variable (finding : Finding)

theorem token?_event :
    finding.event.token? =
      finding.token?.map fun token => (token.kind, token.lexeme, token.line) := by
  cases finding <;> rfl

theorem warning?_event : finding.event.warning? = finding.diagnostic?.map Diagnostic.display := by
  cases finding <;> rfl

/-- Nothing is shown while it is found. -/
theorem shown?_event : finding.event.shown? = none := by
  cases finding <;> rfl

end Finding

namespace PlacedSegment

variable (keywords : KeywordTable) (file : String) (placed : PlacedSegment)

/-- The line and the text, if the segment is a comment. -/
def comment? : Option (Nat × String) :=
  match placed.segment with
  | .comment _ => some (placed.place.line, String.ofList placed.segment.text)
  | _ => none

/-- The event of the segment: it tells of a token, of a comment or of a diagnostic. -/
def event? : Option Event :=
  ((placed.token? keywords file).map Event.ofToken).or <|
    (placed.comment?.map fun comment => .skippedComment comment.1 comment.2).or <|
      (placed.diagnostic? file).map (.reported file)

theorem map_event_finding? :
    (placed.finding? keywords file).map Finding.event = placed.event? keywords file := by
  cases form : placed.segment <;>
    simp [event?, token?, comment?, diagnostic?, finding?, form, Finding.event, Finding.token?,
      Finding.diagnostic?, Event.ofToken, Segment.text]

theorem comment?_event? :
    (placed.event? keywords file).bind Event.comment? = placed.comment? := by
  cases form : placed.segment <;>
    simp [event?, token?, comment?, diagnostic?, finding?, form, Finding.token?,
      Finding.diagnostic?, Event.ofToken, Event.comment?]

end PlacedSegment

namespace Scan

/-! ## What the findings of a scan say -/

section Findings

variable (scan : Scan)

theorem tokens_findings :
    (scan.findings.map Finding.event).filterMap Event.token? =
      scan.tokens.map fun token => (token.kind, token.lexeme, token.line) := by
  rw [List.filterMap_map, tokens, List.map_filterMap]
  exact congrArg (List.filterMap · _) (funext Finding.token?_event)

theorem warnings_findings :
    (scan.findings.map Finding.event).filterMap Event.warning? =
      scan.diagnostics.map Diagnostic.display := by
  rw [List.filterMap_map, diagnostics, List.map_filterMap]
  exact congrArg (List.filterMap · _) (funext Finding.warning?_event)

/-- The end of a scan is no warning. -/
theorem warnings_events :
    scan.events.filterMap Event.warning? = scan.diagnostics.map Diagnostic.display := by
  rw [events, List.filterMap_append, warnings_findings]
  exact List.append_nil _

theorem shown_events : scan.events.filterMap Event.shown? = [] := by
  rw [List.filterMap_eq_nil_iff]
  intro event member
  rcases List.mem_append.mp member with found | last
  · obtain ⟨finding, -, rfl⟩ := List.mem_map.mp found
    exact finding.shown?_event
  · obtain rfl := List.mem_singleton.mp last
    rfl

end Findings

/-! ## The whole scan -/

section Told

variable (keywords : KeywordTable) (file : String) (source : List Char) (segments : List Segment)

/-- What a divided source has to tell: the events of its segments in order, and then the
end of the file. -/
def told : List Event :=
  (Place.start.layOut segments).filterMap (·.event? keywords file) ++
    [.token .endOfFile "" (1 + Text.lineFeeds source)]

/-- The event of the end of a scan that told all this. -/
def finished (events : List Event) : Event :=
  .scanFinished file (events.filterMap Event.token?).length
    (events.filterMap Event.warning?).length (1 + Text.lineFeeds source)

end Told

variable {keywords : KeywordTable} {file : String} {source : List Char} {segments : List Segment}

theorem comments_told :
    (told keywords file source segments).filterMap Event.comment? =
      (Place.start.layOut segments).filterMap PlacedSegment.comment? := by
  rw [told, List.filterMap_append, List.filterMap_filterMap]
  simp only [PlacedSegment.comment?_event?]
  exact List.append_nil _

section Division

variable (division : Division source segments)

include division

theorem map_event_findings :
    (ofSource keywords file source).findings.map Finding.event =
      told keywords file source segments := by
  rw [ofSource_eq division, told, List.map_append, List.map_filterMap, Place.start_after]
  simp only [PlacedSegment.map_event_finding?]
  rfl

theorem tokens_told :
    (told keywords file source segments).filterMap Event.token? =
      (ofSource keywords file source).tokens.map fun token =>
        (token.kind, token.lexeme, token.line) := by
  rw [← map_event_findings division, tokens_findings]

theorem warnings_told :
    (told keywords file source segments).filterMap Event.warning? =
      (ofSource keywords file source).diagnostics.map Diagnostic.display := by
  rw [← map_event_findings division, warnings_findings]

/-- A scan tells what its source has to tell, and how much that was. The scanner counts what
is wrong as it goes, and the count comes out as the number of warnings. -/
theorem events_ofSource :
    (ofSource keywords file source).events =
      told keywords file source segments ++
        [finished file source (told keywords file source segments)] := by
  have counted : (ofSource keywords file source).errorCount =
      ((told keywords file source segments).filterMap Event.warning?).length := by
    rw [warnings_told division, List.length_map, diagnostics_ofSource division,
      ofSource_eq division]
  have tokens : (ofSource keywords file source).tokens.length =
      ((told keywords file source segments).filterMap Event.token?).length := by
    rw [tokens_told division, List.length_map]
  have named : (ofSource keywords file source).file = file := by rw [ofSource_eq division]
  have lines : (ofSource keywords file source).lastLine = 1 + Text.lineFeeds source := by
    rw [ofSource_eq division, Place.start_after]
  rw [events, map_event_findings division, counted, tokens, named, lines, finished]

/-- A comment is told with its whole text: it begins with two slashes, and before the next
line feed nothing is left out. -/
theorem exists_cut_of_mem_comments {line : Nat} {text : String}
    (member : (line, text) ∈ (Place.start.layOut segments).filterMap PlacedSegment.comment?) :
    ∃ before remark later, source = before ++ text.toList ++ later ∧
      line = 1 + Text.lineFeeds before ∧ text.toList = '/' :: '/' :: remark ∧ '\n' ∉ remark ∧
      ∀ next ∈ later.head?, next = '\n' := by
  obtain ⟨placed, stands, tells⟩ := List.mem_filterMap.mp member
  obtain ⟨before, later, whole, reached, wellFormed, ends⟩ := division.exists_of_mem_layOut stands
  unfold PlacedSegment.comment? at tells
  split at tells
  case h_1 remark form =>
    cases tells
    rw [form] at wellFormed ends
    refine ⟨before, remark, later, ?_, ?_, ?_, wellFormed, ?_⟩
    · rw [String.toList_ofList, whole]
    · rw [reached, Place.start_after]
    · rw [form, String.toList_ofList, Segment.text]
    · intro next front
      simpa using ends next front
  case h_2 => contradiction

end Division

end Scan

end LoxLexer
