/-!
# Command-line options

The words behind the program's name. Three options take the next word as their value, whatever
it looks like; the last value given counts. Two are switches. The first word that is none of
these ends the reading.
-/

namespace SynthBridge

namespace Command

/-- What the options ask for. -/
structure Options where
  /-- Takes the place of the configured model. -/
  model : Option String := none
  /-- Takes the place of the configured directory. -/
  romdir : Option String := none
  /-- The configuration file. -/
  config : Option String := none
  /-- Whether to print the directories in the order of the search. -/
  dirs : Bool := false
  /-- Whether to print the matrix of present models. -/
  list : Bool := false
  deriving DecidableEq, Repr

/-- What a word asks for. -/
inductive Word
  | model
  | romdir
  | config
  | dirs
  | list
  | help
  | other
  deriving DecidableEq, Repr

def Word.ofText (w : String) : Word :=
  if w == "--model" || w == "-m" then .model
  else if w == "--romdir" || w == "-r" then .romdir
  else if w == "--config" || w == "-c" then .config
  else if w == "--dirs" then .dirs
  else if w == "--list" || w == "-l" then .list
  else if w == "--help" || w == "-h" then .help
  else .other

/-- What a command line comes to. -/
inductive Request
  | run (o : Options)
  | help
  | unknown (word : String)
  /-- An option, by its long spelling, that should have had a value. -/
  | valueMissing (option : String)
  deriving DecidableEq, Repr

namespace Options

/-- Reads the words that follow those already taken into account. -/
def read (o : Options) : List String → Request
  | [] => .run o
  | w :: rest =>
    match Word.ofText w, rest with
    | .model, value :: rest => read { o with model := some value } rest
    | .model, [] => .valueMissing "--model"
    | .romdir, value :: rest => read { o with romdir := some value } rest
    | .romdir, [] => .valueMissing "--romdir"
    | .config, value :: rest => read { o with config := some value } rest
    | .config, [] => .valueMissing "--config"
    | .dirs, rest => read { o with dirs := true } rest
    | .list, rest => read { o with list := true } rest
    | .help, _ => .help
    | .other, _ => .unknown w

end Options

/-- Reads a command line. -/
def Request.ofWords (words : List String) : Request := Options.read {} words

end Command

end SynthBridge
