/-
# The event log is faithful

What a session logs can be believed. A scan is told as the segments of its source stand, with
each token, each comment and each thing that is wrong, and the numbers at the end are the
numbers of what was told, whatever the session held before. A file that comes to its end is told
as its scan, then as its diagnostics are shown, and then with the same numbers.
-/

import LoxLexer.Proofs.Scan.Events
import LoxLexer.Proofs.Session.Severity

namespace LoxLexer

/-- The events are what the segments of the source have to tell, and what they tell is what
the scan gives. -/
structure Scan.TellsSegments (events : List Event) (keywords : KeywordTable) (file : String)
    (source : List Char) (segments : List Segment) : Prop where
  order : events = told keywords file source segments ++
    [finished file source (told keywords file source segments)]
  tokens : (told keywords file source segments).filterMap Event.token? =
    (ofSource keywords file source).tokens.map fun token => (token.kind, token.lexeme, token.line)
  comments : (told keywords file source segments).filterMap Event.comment? =
    (Place.start.layOut segments).filterMap PlacedSegment.comment?
  /-- The text of a comment is all of it, up to the next line feed. -/
  wholeComments : ∀ line text,
    (line, text) ∈ (told keywords file source segments).filterMap Event.comment? →
      ∃ before remark later, source = before ++ text.toList ++ later ∧
        line = 1 + Text.lineFeeds before ∧ text.toList = '/' :: '/' :: remark ∧ '\n' ∉ remark ∧
        ∀ next ∈ later.head?, next = '\n'
  warnings : (told keywords file source segments).filterMap Event.warning? =
    (ofSource keywords file source).diagnostics.map Diagnostic.display

theorem Scan.tellsSegments {source : List Char} {segments : List Segment}
    (division : Division source segments) (keywords : KeywordTable) (file : String) :
    TellsSegments (ofSource keywords file source).events keywords file source segments where
  order := events_ofSource division
  tokens := tokens_told division
  comments := comments_told
  wholeComments line text member := by
    rw [comments_told] at member
    exact exists_cut_of_mem_comments division member
  warnings := warnings_told division

/-- The events are those of scanning a file, of showing its diagnostics and of being finished
with it. -/
structure TellsFile (events : List Event) (path source : String) (report : FileReport) :
    Prop where
  order :
    let scan := Scan.ofText source (fileName? path)
    events = scan.events ++ (scan.diagnostics.map .writingDiagnostic ++
      [.fileFinished path report.tokens.length (events.filterMap Event.warning?).length])
  shown : events.filterMap Event.shown? =
    (Scan.ofText source (fileName? path)).diagnostics.map fun diagnostic =>
      (diagnostic.cause.name, true, diagnostic.line)

namespace Session

open Procedure

/-! ## Events of actions -/

@[simp] theorem events_scanActions (source : String) (file : Option String) :
    (scanActions source file).filterMap Action.event? = (Scan.ofText source file).events := by
  simp [scanActions, Action.event?, Function.comp_def]

@[simp] theorem events_tokenActions (tokens : List Token) :
    (tokenActions tokens).filterMap Action.event? = [] := by
  simp [tokenActions, Action.event?, Function.comp_def]

@[simp] theorem events_diagnosticActions (diagnostics : List Diagnostic) (source : String) :
    (diagnosticActions diagnostics source).filterMap Action.event? =
      diagnostics.map .writingDiagnostic := by
  rw [diagnosticActions, List.filterMap_flatMap, List.map_eq_flatMap]
  apply List.flatMap_congr
  intro diagnostic _
  have told : (Action.log (.writingDiagnostic diagnostic)).event? =
      some (.writingDiagnostic diagnostic) := rfl
  have silent : ((diagnostic.shownLines source.toList).map fun line =>
      Action.write (line ++ "\n")).filterMap Action.event? = [] := by
    simp [Action.event?]
  rw [List.filterMap_cons_some told, silent]

theorem events_fileActions (showsTokens : Bool) (path source : String) :
    let scan := Scan.ofText source (fileName? path)
    (fileActions showsTokens path source).filterMap Action.event? =
      scan.events ++ (scan.diagnostics.map .writingDiagnostic ++
        [.fileFinished path scan.tokens.length scan.diagnostics.length]) := by
  cases showsTokens <;> simp [fileActions, Action.event?]

/-! ## Events of operations -/

/-- Scanning is told in the same way whatever the session holds. -/
theorem events_scan (session : Session) (source : String) (file : Option String) :
    (Outlet.unlimited.perform (session.scan source file)).events =
      (Scan.ofText source file).events := by
  rw [scan_eq_done, done, Outlet.perform_unlimited]
  simp [Action.event?, Function.comp_def]

theorem events_scanFile (session : Session) (path source : String) :
    let scan := Scan.ofText source (fileName? path)
    (Outlet.unlimited.perform (session.scanFile path (.ok source))).events =
      scan.events ++ (scan.diagnostics.map .writingDiagnostic ++
        [.fileFinished path scan.tokens.length scan.diagnostics.length]) := by
  rw [perform_scanFile]
  exact events_fileActions false path source

/-- Showing is no warning. -/
theorem warnings_writingDiagnostic (diagnostics : List Diagnostic) :
    (diagnostics.map Event.writingDiagnostic).filterMap Event.warning? = [] := by
  simp [Event.warning?, Event.level]

/-- What is shown of a scan is lexical. -/
theorem shown_writingDiagnostic (source : String) (file : Option String) :
    ((Scan.ofText source file).diagnostics.map Event.writingDiagnostic).filterMap Event.shown? =
      (Scan.ofText source file).diagnostics.map fun diagnostic =>
        (diagnostic.cause.name, true, diagnostic.line) := by
  rw [List.filterMap_map, ← List.filterMap_eq_map]
  apply List.filterMap_congr
  intro diagnostic member
  have lexical := (Scan.isRecoverable_of_mem_diagnostics member).lexical
  simp [Event.shown?, lexical]

theorem tellsFile (session : Session) (path source : String) :
    TellsFile (Outlet.unlimited.perform (session.scanFile path (.ok source))).events path source
      (reportOf source (fileName? path)) := by
  have told := events_scanFile session path source
  constructor
  case order =>
    have warnings : ((Outlet.unlimited.perform
        (session.scanFile path (.ok source))).events.filterMap Event.warning?).length =
          (Scan.ofText source (fileName? path)).diagnostics.length := by
      rw [told, List.filterMap_append, List.filterMap_append, Scan.warnings_events,
        warnings_writingDiagnostic]
      simp [Event.warning?, Event.level]
    rw [warnings]
    exact told
  case shown =>
    rw [told, List.filterMap_append, List.filterMap_append, Scan.shown_events,
      shown_writingDiagnostic]
    exact List.append_nil _

/-- The events of a scan are what its source has to tell, the session makes no difference to
them, and a file that comes to its end is told in full. -/
theorem event_log_is_faithful :
    (∀ keywords file source, ∃ segments, (∀ other, Division source other ↔ other = segments) ∧
      Scan.TellsSegments (Scan.ofSource keywords file source).events keywords file source
        segments) ∧
    (∀ (session : Session) source file,
      (Outlet.unlimited.perform (session.scan source file)).events =
        (Scan.ofText source file).events) ∧
    ∀ (session : Session) (outlet : Outlet) path content report,
      (outlet.perform (session.scanFile path content)).result = .ok report →
        ∃ source, content = .ok source ∧
          report.tokens = (Scan.ofText source (fileName? path)).tokens ∧
          TellsFile (outlet.perform (session.scanFile path content)).events path source report := by
  refine ⟨?_, events_scan, ?_⟩
  · intro keywords file source
    obtain ⟨segments, division⟩ := Division.exists_division source
    exact ⟨segments, division.iff_eq, Scan.tellsSegments division keywords file⟩
  · intro session outlet path content report ended
    have whole := Outlet.perform_eq_unlimited (session.stopsWhenRefused_scanFile path content) ended
    rw [whole] at ended ⊢
    cases content with
    | error fault => contradiction
    | ok source =>
        rw [perform_scanFile] at ended
        cases ended
        exact ⟨source, rfl, rfl, tellsFile session path source⟩

/-- A stray character before a comment that goes on to the end of the source. -/
def strayBeforeComment : String := "@\n//é"

/-- The open string that was met before is not told again. -/
theorem event_log_is_faithful_strayBeforeComment :
    let session := ((start false).run "\"" none).2
    let performance := Outlet.unlimited.perform
      (session.scanFile "m.lox" (.ok strayBeforeComment))
    let stray : Diagnostic := ⟨.unexpectedCharacter '@', ⟨0, "m.lox"⟩, 1⟩
    let report : FileReport := ⟨[Scan.endToken "m.lox" ⟨6, 2⟩], true⟩
    performance.result = .ok report ∧
      performance.events = [.reported "m.lox" stray, .skippedComment 2 "//é",
        .token .endOfFile "" 2, .scanFinished "m.lox" 1 1 2, .writingDiagnostic stray,
        .fileFinished "m.lox" 1 1] ∧
      TellsFile performance.events "m.lox" strayBeforeComment report := by
  intro session performance stray report
  have ended : performance.result = .ok report := by decide +kernel
  obtain ⟨source, same, -, tells⟩ :=
    event_log_is_faithful.2.2 session .unlimited "m.lox" (.ok strayBeforeComment) report ended
  cases same
  exact ⟨ended, by decide +kernel, tells⟩

end Session

end LoxLexer
