/-
# Arguments of the command line

Arguments are read from the left. The first one that asks for help or for the
version, or that is a mistake, decides; only if there is none, the program runs.
Short options may stand together after one dash. Two dashes alone end the
options, and what follows is taken as it is. A dash alone is a name like any
other. No option takes a value or may be abbreviated, the option for tokens may
stand once, and there may be one script, whose name is not empty.
-/

namespace LoxLexer

/-- What a run of the program is asked to do. -/
structure Options where
  showsTokens : Bool
  /-- The script to run; the prompt runs if there is none. -/
  script : Option String
  deriving DecidableEq

/-- What the arguments ask for. -/
inductive Invocation
  | run (options : Options)
  | help
  | version
  | mistake
  deriving DecidableEq

namespace Options

/-- The options without arguments. -/
def none : Options := ⟨false, .none⟩

/-- Reads the option for tokens. -/
def withTokens (options : Options) : Except Invocation Options :=
  if options.showsTokens then .error .mistake else .ok { options with showsTokens := true }

/-- Reads the name of the script. -/
def withScript (options : Options) (name : String) : Except Invocation Options :=
  if options.script.isSome || name.isEmpty then .error .mistake
  else .ok { options with script := some name }

/-- Reads short options that stand together. -/
def withLetters (options : Options) : List Char → Except Invocation Options
  | [] => .ok options
  | 't' :: later => do
    let changed ← options.withTokens
    changed.withLetters later
  | 'h' :: _ => .error .help
  | 'V' :: _ => .error .version
  | _ :: _ => .error .mistake

/-- Reads an argument that may be an option. -/
def withArgument (options : Options) (argument : String) : Except Invocation Options :=
  match argument.toList with
  | '-' :: '-' :: _ =>
    if argument = "--tokens" then options.withTokens
    else if argument = "--help" then .error .help
    else if argument = "--version" then .error .version
    else .error .mistake
  | '-' :: letter :: later => options.withLetters (letter :: later)
  | _ => options.withScript argument

/-- Reads all arguments. -/
def withArguments (options : Options) : List String → Except Invocation Options
  | [] => .ok options
  | "--" :: names => names.foldlM withScript options
  | argument :: later => do
    let changed ← options.withArgument argument
    changed.withArguments later

end Options

/-- What a list of arguments asks for. -/
def Invocation.ofArguments (arguments : List String) : Invocation :=
  match Options.none.withArguments arguments with
  | .ok options => .run options
  | .error invocation => invocation

end LoxLexer
