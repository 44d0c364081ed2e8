/-
# Paths and file trees

A path is a text whose names are separated by slashes. Empty names and single
dots stay where they are, two dots go up. The file name of a path is the last
of its names that goes down, unless the path ends by going up.

A file tree is what stands in a working directory: files with their bytes and
directories. A path is followed step by step, and every step but the last has to
find a directory. Paths can lead above the working directory, where there are
directories with nothing known in them except what was put there by such paths.
-/

import LoxLexer.Text.Utf8

namespace LoxLexer

/-- One step of a path. -/
inductive PathStep
  | stay
  | up
  | down (name : String)
  deriving DecidableEq

/-- The step that a name between slashes stands for. -/
def PathStep.ofName (name : List Char) : PathStep :=
  if name = [] ∨ name = ['.'] then .stay
  else if name = ['.', '.'] then .up
  else .down (String.ofList name)

/-- The names of a path, empty ones too. -/
def pathNames : List Char → List (List Char)
  | [] => [[]]
  | character :: rest =>
    match pathNames rest with
    | [] => [[character]]
    | name :: later => if character = '/' then [] :: name :: later else (character :: name) :: later

/-- The steps of a path. -/
def pathSteps (path : String) : List PathStep := (pathNames path.toList).map .ofName

/-- The file name of a path. -/
def fileName? (path : String) : Option String :=
  match (pathSteps path).filter (· ≠ .stay) |>.getLast? with
  | some (.down name) => some name
  | _ => none

/-! ## Reading files -/

/-- Why a file could not be read as text. -/
inductive ReadFault
  | notFound
  /-- The path leads through a file. -/
  | notDirectory
  /-- The path leads to a directory. -/
  | isDirectory
  | notText
  /-- Anything else, in the words of the system. -/
  | other (reason : String)
  deriving DecidableEq

/-- The reason that is given for a fault. -/
def ReadFault.reason : ReadFault → String
  | notFound => "No such file or directory (os error 2)"
  | notDirectory => "Not a directory (os error 20)"
  | isDirectory => "Is a directory (os error 21)"
  | notText => "stream did not contain valid UTF-8"
  | other reason => reason

/-- The bytes of a file as text. -/
def decodeFile (bytes : List UInt8) : Except ReadFault String :=
  match Text.Utf8.decode? bytes with
  | some text => .ok (String.ofList text)
  | none => .error .notText

/-- What stands at a location. -/
inductive Entry
  | file (bytes : List UInt8)
  | directory
  deriving DecidableEq

/-- A place for an entry: so many directories up from the working directory, then
down along names. -/
structure Location where
  /-- The number of directories above the working directory. -/
  above : Nat
  /-- The names to go down along. -/
  names : List String
  deriving DecidableEq

namespace Location

/-- The working directory. -/
def workingDirectory : Location := ⟨0, []⟩

/-- The directory that holds a location. -/
def parent (location : Location) : Location :=
  if location.names = [] then ⟨location.above + 1, []⟩
  else ⟨location.above, location.names.dropLast⟩

/-- The location of a member of a directory. -/
def child (location : Location) (name : String) : Location :=
  ⟨location.above, location.names ++ [name]⟩

end Location

/-- The files and directories in and around a working directory. -/
structure FileTree where
  /-- The entries with their locations; the latest entry of a location counts. -/
  entries : List (Location × Entry)

namespace FileTree

/-- The tree in which the working directory is empty. -/
def empty : FileTree := ⟨[]⟩

/-- What stands at a location, if anything does. -/
def find? (tree : FileTree) (location : Location) : Option Entry :=
  if location.names = [] then some .directory else tree.entries.lookup location

/-- Puts an entry at a location. -/
def insert (tree : FileTree) (location : Location) (entry : Entry) : FileTree :=
  ⟨(location, entry) :: tree.entries⟩

/-- The location that a step leads to from a directory. -/
def step (location : Location) : PathStep → Location
  | .stay => location
  | .up => location.parent
  | .down name => location.child name

/-- Follows the steps of a path from a location. -/
def follow (tree : FileTree) : Location → List PathStep → Except ReadFault Entry
  | location, steps =>
    match tree.find? location, steps with
    | none, _ => .error .notFound
    | some entry, [] => .ok entry
    | some (.file _), _ :: _ => .error .notDirectory
    | some .directory, next :: later => follow tree (step location next) later
termination_by _ steps => steps.length

/-- Reads the file at a path as text. The empty path leads nowhere. -/
def read (tree : FileTree) (path : String) : Except ReadFault String :=
  if path = "" then .error .notFound
  else
    match tree.follow .workingDirectory (pathSteps path) with
    | .error fault => .error fault
    | .ok .directory => .error .isDirectory
    | .ok (.file bytes) => decodeFile bytes

/-- Puts an entry at the end of a path and makes the directories on the way that
do not exist. A file takes the place of a file. A path that leads through a
file, and a directory where something stands already, change nothing more. -/
def put (entry : Entry) : FileTree → Location → List PathStep → FileTree
  | tree, location, [] =>
    match tree.find? location, entry with
    | some .directory, _ => tree
    | some (.file _), .directory => tree
    | _, _ => tree.insert location entry
  | tree, location, next :: later =>
    match tree.find? location with
    | some (.file _) => tree
    | some .directory => put entry tree (step location next) later
    | none => put entry (tree.insert location .directory) (step location next) later

/-- Writes a file, with the directories on its way. -/
def write (tree : FileTree) (path : String) (bytes : List UInt8) : FileTree :=
  put (.file bytes) tree .workingDirectory (pathSteps path)

/-- Makes a directory, with the directories on its way. -/
def makeDirectory (tree : FileTree) (path : String) : FileTree :=
  put .directory tree .workingDirectory (pathSteps path)

end FileTree

end LoxLexer
