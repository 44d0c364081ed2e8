/-
# Running the program

A run of the program reads its arguments and then does one thing: it writes the
help text or the version, runs a script or runs the prompt. What it wrote and
its exit status are its result. A script with diagnostics gives a status of its
own, and so does a script that could not be run. The prompt fails only when
reading or writing fails.
-/

import LoxLexer.CommandLine.Arguments
import LoxLexer.Session.Basic
import LoxLexer.Session.Prompt

namespace LoxLexer.CommandLine

/-- How a run of the program can end. -/
inductive ExitStatus
  | success
  | promptFailure
  | usageMistake
  | dataError
  | transferError
  deriving DecidableEq

/-- The number of an exit status. -/
def ExitStatus.code : ExitStatus → UInt8
  | success => 0
  | promptFailure => 1
  | usageMistake => 2
  | dataError => 65
  | transferError => 74

/-- The exit status of a script. -/
def ExitStatus.ofScript : Except Stop FileReport → ExitStatus
  | .ok report => if report.hasErrors then .dataError else .success
  | .error _ => .transferError

/-- The exit status of the prompt. -/
def ExitStatus.ofPrompt : Except Stop Unit → ExitStatus
  | .ok _ => .success
  | .error _ => .promptFailure

/-- What is written to standard error after an operation: the diagnostic that ended it. -/
def complaint {α : Type} : Except Stop α → String
  | .ok _ => ""
  | .error stop =>
    match stop.diagnostic? with
    | some diagnostic => diagnostic.display ++ "\n"
    | none => ""

/-- The version text. -/
def versionText : String := "lox 0.1.0\n"

/-- The lines of the help text. -/
def helpLines : List String :=
  ["Lexical scanner and token dumper for the Lox scripting language",
   "",
   "Usage: lox [OPTIONS] [SCRIPT]",
   "",
   "Arguments:",
   "  [SCRIPT]  Script to scan; starts an interactive prompt when omitted",
   "",
   "Options:",
   "  -t, --tokens   Print every token of a script run",
   "  -h, --help     Print help",
   "  -V, --version  Print version"]

/-- The help text. -/
def helpText : String := String.join (helpLines.map (· ++ "\n"))

/-- How a run of the program ends. -/
structure Ending where
  status : ExitStatus
  /-- What is written to standard error. -/
  complaints : String

/-- Writes a text whatever becomes of it. -/
def inform (text : String) : Interaction Ending := do
  let _ ← (Procedure.write text).run
  return ⟨.success, ""⟩

/-- Scans a script and writes the notice if it has diagnostics. A notice that is refused
leaves the status as it is. -/
def script (showsTokens : Bool) (path : String) (content : Except ReadFault String) :
    Interaction Ending := do
  let result ← ((Session.start showsTokens).scanFile path content).run
  match result with
  | .ok report => do
    let notice ← report.notice.run
    return ⟨.ofScript result, complaint notice⟩
  | .error _ => return ⟨.ofScript result, complaint result⟩

/-- How the program ends after the prompt. -/
def Ending.ofPrompt (result : Except Stop Unit) : Ending := ⟨.ofPrompt result, complaint result⟩

/-- Does what is asked for, wherever files are read from and the prompt is run. -/
def run {m : Type → Type} [Monad m] [MonadLiftT Interaction m]
    (read : String → m (Except ReadFault String)) (prompt : Session → m (Except Stop Unit)) :
    Invocation → m Ending
  | .help => inform helpText
  | .version => inform versionText
  | .mistake => return ⟨.usageMistake, helpText⟩
  | .run ⟨showsTokens, some path⟩ => do
    let content ← read path
    script showsTokens path content
  | .run ⟨showsTokens, none⟩ => do
    let result ← prompt (.start showsTokens)
    return .ofPrompt result

/-- What the program finds around it. -/
structure Surroundings where
  read : String → Except ReadFault String
  input : PromptInput
  output : Outlet

/-- What a run of the program leaves. -/
structure Result where
  status : ExitStatus
  output : List UInt8
  complaints : String

/-- The result of a run that was performed at the output. -/
def Result.ofPerformance (performance : Performance Ending) : Result :=
  ⟨performance.result.status, performance.accepted, performance.result.complaints⟩

/-- Runs the program with its arguments, given how arguments are understood. -/
def runProgramWith (understand : List String → Invocation) (surroundings : Surroundings)
    (arguments : List String) : Result :=
  .ofPerformance (surroundings.output.perform
    (run (fun path => pure (surroundings.read path))
      (fun session => (session.prompt surroundings.input).run) (understand arguments)))

/-- Runs the program with its arguments. -/
def runProgram (surroundings : Surroundings) (arguments : List String) : Result :=
  runProgramWith .ofArguments surroundings arguments

end LoxLexer.CommandLine
