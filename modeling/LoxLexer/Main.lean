/-
# The program

The outer layer: it gives the library the real arguments, files, standard input and
standard output, and sets the exit status. The prompt takes one turn after another,
so that a person can use it. What is done in a turn, with a script and with the
arguments is decided by the library.
-/

import LoxLexer.CommandLine.Run

namespace LoxLexer.Program

/-- What the system says of an error: its words and its number. -/
def systemReason : IO.Error → String
  | .noFileOrDirectory _ code details | .interrupted _ code details
  | .invalidArgument _ code details | .permissionDenied _ code details
  | .resourceExhausted _ code details | .inappropriateType _ code details
  | .noSuchThing _ code details | .alreadyExists _ code details
  | .otherError code details | .resourceBusy code details | .resourceVanished code details
  | .unsupportedOperation code details | .hardwareFault code details
  | .unsatisfiedConstraints code details | .illegalOperation code details
  | .protocolError code details | .timeExpired code details =>
    details ++ " (os error " ++ code.toInt32.toInt.natAbs.repr ++ ")"
  | fault => toString fault

/-- The fault that an error of the system stands for. A directory that cannot be
read as a file and a file that cannot be passed through differ in their numbers. -/
def readFault : IO.Error → ReadFault
  | .noFileOrDirectory .. => .notFound
  | .inappropriateType _ 21 _ => .isDirectory
  | .inappropriateType .. => .notDirectory
  | fault => .other (systemReason fault)

/-- Standard output takes texts. Events are not shown. -/
def venue : Interaction.Venue IO where
  offer text := do
    try
      let output ← IO.getStdout
      output.putStr text
      output.flush
      return .ok ()
    catch fault => return .error (systemReason fault)
  tell _ := return
  leave _ := return

instance : MonadLift Interaction IO where
  monadLift interaction := interaction.runAt venue

instance : MonadLift Procedure (ExceptT Stop IO) where
  monadLift procedure := ExceptT.mk (procedure.run.runAt venue)

/-- Reads a file as text. -/
def readText (path : String) : IO (Except ReadFault String) :=
  try
    let bytes ← IO.FS.readBinFile path
    return decodeFile bytes.toList
  catch fault => return .error (readFault fault)

/-- Reads bytes from standard input up to a line feed or the end, the latest byte first. -/
partial def readLineReversed (before : List UInt8) : IO (List UInt8) := do
  let input ← IO.getStdin
  let bytes ← input.read 1
  match bytes.toList with
  | [] => return before
  | byte :: _ => if byte = 10 then return byte :: before else readLineReversed (byte :: before)

/-- Reads a line from standard input. -/
def readLine : IO Reading := do
  try
    let bytes ← readLineReversed []
    return if bytes.isEmpty then .ended none else .line bytes.reverse
  catch fault => return .ended (some (systemReason fault))

/-- Takes turns on standard input until the prompt is closed. -/
partial def prompt (session : Session) : ExceptT Stop IO Unit := do
  match ← session.turn (liftM readLine) with
  | some scanned => prompt scanned
  | none => return

end LoxLexer.Program

/-- Runs the program and exits with its status. -/
def main (arguments : List String) : IO UInt32 := do
  let ending ← LoxLexer.CommandLine.run LoxLexer.Program.readText
    (fun session => (LoxLexer.Program.prompt session).run) (.ofArguments arguments)
  IO.eprint ending.complaints
  return ending.status.code.toUInt32
