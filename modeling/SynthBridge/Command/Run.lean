import SynthBridge.Command.Options
import SynthBridge.Config
import SynthBridge.Rom.Builtin
import SynthBridge.Rom.Listing
import SynthBridge.Rom.Search

/-!
# The command

Shows where ROMs are searched for, which models are present there, and which one would be
loaded. No engine is at hand, so ROMs are told by their names.

`Command.run` computes what the command prints and its exit code from the words of the command
line, the environment and the files.
-/

namespace SynthBridge

namespace Command

/-- The name under which the program is installed and keeps its configuration. -/
def programName : String := "mt32bridge"

/-! ## The environment -/

/-- What the command sees of the process that it runs in. -/
structure Environment where
  settings : List (String × String)
  /-- The home directory of the user's account, for want of a variable. -/
  accountHome : Option String := none

namespace Environment

def get? (e : Environment) (name : String) : Option String := e.settings.lookup name

/-- The user's home directory. -/
def home? (e : Environment) : Option String :=
  ((e.get? "HOME").filter (· != "")).or e.accountHome

/-- The directory of configurations; a relative one does not count. -/
def configHome? (e : Environment) : Option String :=
  ((e.get? "XDG_CONFIG_HOME").filter Path.isAbsolute).or (e.home?.map (Path.join · ".config"))

/-- What the search depends on. -/
def searchEnv (e : Environment) : SearchEnv where
  home := e.home?
  configDir := e.configHome?.map (Path.join · programName)
  dataHome := e.get? "XDG_DATA_HOME"
  dataDirs := e.get? "XDG_DATA_DIRS"

/-- Whether to print colours; the output is not taken for a terminal. -/
def color (e : Environment) : Bool := (e.get? "CLICOLOR_FORCE").any (· != "0")

end Environment

/-! ## The effective configuration -/

/-- Why a command line cannot be carried out: an error and its causes. -/
abbrev Refusal := List String

/-- A failure with its causes. -/
def causes (f : Failure) : Refusal := f.message :: f.source?.toList

/-- The configuration of the file, if one is named, with the options over it. -/
def effectiveConfig (o : Options) (t : FileTree) : Except Refusal Config := do
  let c ←
    match o.config with
    | none => .ok {}
    | some path =>
      match Config.load t path with
      | .ok c => .ok c
      | .error f => .error (s!"Failed to load config from {path}" :: causes f)
  let model := (o.model.map ModelSelector.ofText).getD c.model
  .ok { c with model, romdir := o.romdir.getD c.romdir }

/-- What the command works with. -/
structure Plan where
  catalog : Catalog
  config : Config
  /-- The directories in the order of the search. -/
  dirs : List String

/-- The plan for some options. -/
def plan (o : Options) (platform : Platform) (e : Environment) (t : FileTree) :
    Except Refusal Plan := do
  let catalog ←
    match Catalog.builtin with
    | .ok catalog => .ok catalog
    | .error f => .error ("Failed to build model catalog" :: causes f)
  let config ← effectiveConfig o t
  match config.validate catalog with
  | .ok () =>
    .ok { catalog, config, dirs := Search.order platform e.searchEnv config.romdir }
  | .error f =>
    let names := ", ".intercalate catalog.names
    .error (s!"Valid models: auto, {names}" :: causes f)

/-- Every file that may be looked at. -/
def Plan.paths (p : Plan) : List String :=
  p.dirs.flatMap fun dir => (Probe.files p.catalog).map fun rom => rom.pathIn dir

/-! ## Files looked at -/

/-- The configuration file that a command line names. -/
def configPaths (words : List String) : List String :=
  match Request.ofWords words with
  | .run o => o.config.toList
  | _ => []

/-- The ROM files that a command line makes the command look at, once its configuration file is
known. -/
def romPaths (words : List String) (platform : Platform) (e : Environment) (t : FileTree) :
    List String :=
  match Request.ofWords words with
  | .run o =>
    match plan o platform e t with
    | .ok p => p.paths
    | .error _ => []
  | _ => []

/-! ## Errors with their causes -/

/-- A text whose later lines begin with a margin. -/
def indented (margin : Nat) (s : String) : String :=
  let between := "\n" ++ String.ofList (List.replicate margin ' ')
  between.intercalate (Text.split '\n' s)

/-- A number at the end of a field of the given width. -/
def rightAligned (width n : Nat) : String :=
  let digits := toString n
  String.ofList (List.replicate (width - digits.length) ' ') ++ digits

/-- A cause behind its number. -/
def numbered (n : Nat) (cause : String) : String := rightAligned 5 n ++ ": " ++ indented 7 cause

/-- The text of an error and its causes, outermost first. -/
def causesText : List String → String
  | [] => ""
  | [error] => error
  | [error, cause] => error ++ "\n\nCaused by:\n    " ++ indented 4 cause
  | error :: causes =>
    let entries := causes.zipIdx.map fun (cause, n) => "\n" ++ numbered n cause
    error ++ "\n\nCaused by:" ++ String.join entries

/-! ## Output -/

/-- What a command prints, and its exit code. -/
structure Report where
  code : Nat
  out : String := ""
  err : String := ""
  deriving DecidableEq, Repr

/-- Lines that each end in a line break. -/
def lines (ls : List String) : String := String.join (ls.map (· ++ "\n"))

/-- The width of a terminal of which nothing is known. -/
def standardWidth : Nat := 80

/-- The help text of the program as it was called. -/
def helpText (program : String) : String :=
  lines
    ["mt32bridge - MT-32 / CM-32L ROM inspector",
      "",
      s!"Usage: {program} [OPTIONS]",
      "",
      "Options:",
      "  -m, --model NAME    Model to select, or 'auto' (default)",
      "  -r, --romdir DIR    Search DIR before the standard locations",
      "  -c, --config FILE   Load settings from a JSON file",
      "      --dirs          Print the ROM directory search order",
      "  -l, --list          List the models present in each directory",
      "  -h, --help          Print this help message",
      "",
      "Set RUST_LOG=debug to trace model resolution."]

def unknownText (word : String) : String :=
  lines [s!"Unknown option: {word}", "Use --help for usage information"]

/-- A command that stops with an error. -/
def refused (out : String) (r : Refusal) : Report :=
  { code := 1, out, err := "Error: " ++ causesText r ++ "\n" }

/-- The directories, under a heading. -/
def dirsText (dirs : List String) : String :=
  lines ("ROM search order:" :: dirs.map ("  " ++ ·) ++ [""])

/-- The first candidate that is present. -/
def firstPresent (inv : Inventory) (identify : Identifier) (t : FileTree) :
    List Catalog.Candidate → Option Catalog.Candidate
  | [] => none
  | c :: rest =>
    let (present, _, inv) := inv.check identify t c.entry c.dir
    if present then some c else firstPresent inv identify t rest

/-- Carries out a plan. -/
def Plan.carryOut (p : Plan) (o : Options) (color : Bool) (t : FileTree) : Report :=
  let identify := Probe.identify p.catalog
  let selector := p.config.model
  let inv : Inventory := { catalog := p.catalog }
  let (listing, _, inv) :=
    if o.list then Listing.render color inv identify t selector p.dirs standardWidth
    else ("", [], inv)
  let out :=
    (if o.dirs then dirsText p.dirs else "") ++ (if o.list then listing ++ "\n" else "")
  match firstPresent inv identify t (p.catalog.candidates selector p.dirs) with
  | some c =>
    let model := c.entry.model.name
    let dir := c.dir
    { code := 0, out := out ++ s!"Model {model} would be loaded from {dir}\n" }
  | none => refused out (causes (.romsNotFound selector.text p.dirs))

/-- What the command prints, and its exit code. -/
def run (program : String) (words : List String) (platform : Platform) (e : Environment)
    (t : FileTree) : Report :=
  match Request.ofWords words with
  | .help => { code := 0, err := helpText program }
  | .unknown word => { code := 1, err := unknownText word }
  | .valueMissing option => refused "" [s!"{option} requires an argument"]
  | .run o =>
    match plan o platform e t with
    | .error r => refused "" r
    | .ok p => p.carryOut o e.color t

end Command

end SynthBridge
