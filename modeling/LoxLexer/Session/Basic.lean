/-
# Sessions and files

A session scans one piece of text after another. It keeps diagnostics from one
piece to the next, and it knows whether the tokens of a file are shown.

The text of a file is scanned after a reset. Its tokens are written if the session
shows them, and then the diagnostics of the session are shown. A file that cannot be read ends
the operation before anything is written or left behind. After a file with
diagnostics a notice can be written.
-/

import LoxLexer.Diagnostic.Snippet
import LoxLexer.FileTree.Basic
import LoxLexer.Interaction.Outlet
import LoxLexer.Scan.Scanner

namespace LoxLexer

/-- What is kept from one operation to the next. -/
structure Session where
  showsTokens : Bool
  diagnostics : Diagnostics
  deriving DecidableEq

namespace Session

/-- A new session. -/
def start (showsTokens : Bool) : Session := ⟨showsTokens, .empty⟩

/-- Was anything wrong with what was scanned? -/
def hasErrors (session : Session) : Bool := session.diagnostics.hasErrors

/-- Scans a text. Its diagnostics come after those that the session already has. -/
def run (session : Session) (source : String) (file : Option String) : Scan × Session :=
  let scan := Scan.ofText source file
  (scan, { session with diagnostics := session.diagnostics.reportAll scan.diagnostics })

/-- The session without the diagnostics of earlier texts. -/
def reset (session : Session) : Session := { session with diagnostics := .empty }

/-- The session after an operation: it has the diagnostics that were left behind last. -/
def after {α : Type} (session : Session) (performance : Performance α) : Session :=
  { session with diagnostics := performance.retained.getD session.diagnostics }

/-- Scans a text as a part of an operation: the scan is logged, and what the
session has afterwards is left behind. -/
def scan (session : Session) (source : String) (file : Option String) :
    Procedure (Scan × Session) := do
  let (scan, scanned) := session.run source file
  .forEach scan.events .log
  .retain scanned.diagnostics
  return (scan, scanned)

/-- Writes one line for each token. -/
def writeTokens (tokens : List Token) : Procedure Unit :=
  .forEach tokens fun token => .writeLine token.display

/-- Shows each diagnostic of the session against a source. -/
def showDiagnostics (session : Session) (source : String) : Procedure Unit :=
  .forEach session.diagnostics.reported fun diagnostic => do
    .log (.writingDiagnostic diagnostic)
    diagnostic.render source.toList

end Session

/-! ## Scanning a file -/

/-- What is known after a file was scanned. -/
structure FileReport where
  tokens : List Token
  hasErrors : Bool
  deriving DecidableEq

namespace FileReport

/-- The text of the notice. -/
def noticeText : String := "Exiting because of an unexpected error"

/-- Writes the notice if anything was wrong with the file. -/
def notice (report : FileReport) : Procedure Unit :=
  if report.hasErrors then .writeLine noticeText else pure ()

end FileReport

namespace Session

/-- Scans the file at a path, of which the content or the fault of reading it is given. -/
def scanFile (session : Session) (path : String) (content : Except ReadFault String) :
    Procedure FileReport :=
  match content with
  | .error fault => .stop (.failed (.placeless (.unreadableFile path fault.reason)))
  | .ok source => do
    let (scan, scanned) ← session.reset.scan source (fileName? path)
    if session.showsTokens then writeTokens scan.tokens
    scanned.showDiagnostics source
    .log (.fileFinished path scan.tokens.length scanned.diagnostics.reported.length)
    return { tokens := scan.tokens, hasErrors := scanned.hasErrors }

end Session

end LoxLexer
