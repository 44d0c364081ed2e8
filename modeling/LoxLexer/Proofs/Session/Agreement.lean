/-
# The prompt and the file agree

A text that is given to the prompt is scanned line by line, and the same text in a
file is scanned as a whole. If no line asks for anything else and no line leaves a
string open, both find the same tokens and the same diagnostics, but for where
they stand.
-/

import LoxLexer.Proofs.Session.Independence
import LoxLexer.Proofs.Session.LineByLine
import LoxLexer.Proofs.Text.Utf8

namespace LoxLexer.Session

/-- The lines of a text as the prompt scans them. -/
def promptLines (text : String) : List String :=
  (Text.lines text.toList).map fun line => String.ofList (Text.bareLine line)

/-- The input that consists of a text and ends with it. -/
def inputOf (text : String) : PromptInput := ⟨Text.Utf8.encode text.toList, none⟩

/-- Scanning a file that consists of a text. -/
def scanFileOf (session : Session) (path text : String) : Performance (Except Stop FileReport) :=
  Outlet.unlimited.perform (session.scanFile path (decodeFile (Text.Utf8.encode text.toList)))

/-- The prompt and a file make the same of a text. -/
structure AgreesOn (session : Session) (path text : String) : Prop where
  /-- The prompt scans every line by itself, shows what it finds there, and ends. -/
  prompt :
    let performance := Outlet.unlimited.perform (session.prompt (inputOf text))
    performance.result = .ok () ∧
    performance.accepted =
      ((promptLines text).flatMap fun line =>
        let scan := Scan.ofText line none
        Text.Utf8.encode promptMark.toList ++
          (tokenBytes scan.tokens ++ diagnosticBytes scan.diagnostics line)) ++
        Text.Utf8.encode promptMark.toList
  /-- Every diagnostic of the prompt belongs to the first line of the shell. -/
  alone : ∀ line ∈ promptLines text, ∀ diagnostic ∈ (Scan.ofText line none).diagnostics,
    diagnostic.line = 1 ∧ diagnostic.position.file = Scan.shellName
  /-- The tokens of the file are those of the lines. -/
  tokens : ∃ report, (session.scanFileOf path text).result = .ok report ∧
    Token.allUnplaced report.tokens =
      (promptLines text).flatMap fun line => Token.allUnplaced (Scan.ofText line none).tokens
  /-- The diagnostics of the file are those of the lines, each behind the lines before. -/
  diagnostics : (session.after (session.scanFileOf path text)).diagnostics.reported =
    (promptLines text).zipIdx.flatMap fun (line, index) =>
      (Scan.ofText line none).diagnostics.map fun diagnostic =>
        ⟨diagnostic.cause,
          ⟨Text.byteSize (Text.beforeLine text.toList index) + diagnostic.position.offset,
            (fileName? path).getD Scan.shellName⟩,
          index + 1⟩

/-! ## The prompt -/

theorem lines_inputOf (text : String) :
    (inputOf text).lines = (Text.lines text.toList).map Text.Utf8.encode :=
  Text.Utf8.splitAfter_encode text.toList

/-- A line that is no command is scanned. -/
theorem ofBytes_encode {line : List Char}
    (scanned : String.ofList (Text.bareLine line) ≠ "exit" ∧
      String.ofList (Text.bareLine line) ≠ "help") :
    PromptCommand.ofBytes (Text.Utf8.encode line) = .scan (String.ofList (Text.bareLine line)) := by
  have text : PromptCommand.lineText (Text.Utf8.encode line) =
      String.ofList (Text.bareLine line) := by
    rw [PromptCommand.lineText, Text.Utf8.decodeLossy_encode]
    rfl
  rw [PromptCommand.ofBytes, text, PromptCommand.ofText, if_neg scanned.1, if_neg scanned.2]

variable {text : String}

theorem promptBytes_inputOf (scanned : ∀ line ∈ promptLines text, line ≠ "exit" ∧ line ≠ "help") :
    promptBytes (inputOf text).lines =
      ((promptLines text).flatMap fun line =>
        Text.Utf8.encode promptMark.toList ++ replyBytes (.scan line)) ++
        Text.Utf8.encode promptMark.toList := by
  have command : ∀ line ∈ Text.lines text.toList, PromptCommand.ofBytes (Text.Utf8.encode line) =
      .scan (String.ofList (Text.bareLine line)) :=
    fun line member => ofBytes_encode (scanned _ (List.mem_map_of_mem member))
  have all : answered (inputOf text).lines = (inputOf text).lines := by
    rw [answered_eq_self_iff, lines_inputOf, List.forall_mem_map]
    intro line member
    rw [command line member]
    exact nofun
  rw [promptBytes, all, lines_inputOf, promptLines, List.flatMap_map, List.flatMap_map]
  congr 1
  apply List.flatMap_congr
  intro line member
  rw [command line member]

/-! ## Both -/

theorem scanFileOf_eq (session : Session) (path text : String) :
    session.scanFileOf path text = Outlet.unlimited.perform (session.scanFile path (.ok text)) := by
  rw [scanFileOf, Text.Utf8.decodeFile_encode]

theorem ofText_ofList (line : List Char) :
    Scan.ofText (String.ofList line) none = Scan.ofSource .builtin Scan.shellName line := by
  rw [Scan.ofText, String.toList_ofList]
  rfl

/-- If every line of a text is scanned and leaves no string open, the prompt and a
file agree on the text. -/
theorem prompt_agrees_with_file (session : Session) (path text : String)
    (scanned : ∀ line ∈ promptLines text, line ≠ "exit" ∧ line ≠ "help")
    (closed : ∀ line ∈ promptLines text, ∀ diagnostic ∈ (Scan.ofText line none).diagnostics,
      diagnostic.cause ≠ .unterminatedString) :
    session.AgreesOn path text := by
  have closedLines : ∀ line ∈ Text.lines text.toList,
      ∀ diagnostic ∈ (Scan.ofSource .builtin Scan.shellName (Text.bareLine line)).diagnostics,
        diagnostic.cause ≠ .unterminatedString := by
    intro line member
    have whole := closed _ (List.mem_map_of_mem member)
    rwa [ofText_ofList] at whole
  constructor
  case prompt =>
      have written := session.accepted_prompt (inputOf text)
      rw [promptBytes_inputOf scanned] at written
      exact ⟨session.result_prompt _, written⟩
  case alone =>
      intro line member diagnostic reported
      obtain ⟨line, stands, rfl⟩ := List.mem_map.mp member
      rw [ofText_ofList] at reported
      exact ⟨Scan.line_eq_one_of_mem_diagnostics (Text.lineFeed_not_mem_bareLine stands) reported,
        (Scan.isReported_of_mem_diagnostics reported).2⟩
  case tokens =>
      refine ⟨_, by rw [scanFileOf_eq, perform_scanFile], ?_⟩
      rw [promptLines, List.flatMap_map]
      simp only [ofText_ofList]
      exact Scan.tokens_line_by_line _ _ closedLines KeywordTable.find?_builtin_ne_endOfFile
  case diagnostics =>
      have found := Scan.diagnostics_line_by_line ((fileName? path).getD Scan.shellName)
        Scan.shellName closedLines
      rw [scanFileOf_eq, after_scanFile, promptLines, List.zipIdx_map, List.flatMap_map]
      simp only [ofText_ofList, Prod.map]
      exact found

/-- A number and a point before a carriage return, an empty line, and a comment that
takes a carriage return in behind a stray character. -/
def carriageReturns : List Char := ['1', '.', '\r', '\n', '\n', '#', '/', '/', 'x', '\r']

theorem prompt_agrees_with_file_carriageReturns :
    (∀ line ∈ promptLines (.ofList carriageReturns), line ≠ "exit" ∧ line ≠ "help") ∧
      (∀ line ∈ promptLines (.ofList carriageReturns),
        ∀ diagnostic ∈ (Scan.ofText line none).diagnostics,
          diagnostic.cause ≠ .unterminatedString) ∧
      (start false).AgreesOn "m.lox" (.ofList carriageReturns) := by
  have lines : promptLines (.ofList carriageReturns) =
      [['1', '.'], [], ['#', '/', '/', 'x']].map String.ofList := by
    rw [promptLines, String.toList_ofList]
    rfl
  have scanned : ∀ line ∈ promptLines (.ofList carriageReturns), line ≠ "exit" ∧ line ≠ "help" := by
    rw [lines]
    decide +kernel
  have closed : ∀ line ∈ promptLines (.ofList carriageReturns),
      ∀ diagnostic ∈ (Scan.ofText line none).diagnostics,
        diagnostic.cause ≠ .unterminatedString := by
    rw [lines, List.forall_mem_map]
    simp only [ofText_ofList]
    decide +kernel
  exact ⟨scanned, closed,
    prompt_agrees_with_file (start false) "m.lox" (.ofList carriageReturns) scanned closed⟩

end LoxLexer.Session
