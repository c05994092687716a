import SynthBridge.Text.Blank

/-!
# Where ROMs are looked for

The directories to search, in order: the user's own, then the standard ones of the platform.
The order is a function of the platform, of a few environment values and of the configured
directory; nothing here looks at files.
-/

namespace SynthBridge

/-- The families of platforms with standard places of their own. -/
inductive Platform
  | windows
  | macos
  /-- Linux and others that follow the same base directories. -/
  | xdg
  deriving DecidableEq, Repr

def Platform.separator : Platform → Char
  | .windows => '\\'
  | .macos | .xdg => '/'

/-- The environment values that the order depends on. -/
structure SearchEnv where
  /-- The home directory, which `~` stands for. -/
  home : Option String := none
  /-- The program's own configuration directory. -/
  configDir : Option String := none
  dataHome : Option String := none
  /-- Data directories, set apart by colons. -/
  dataDirs : Option String := none
  deriving DecidableEq, Repr

namespace Search

/-- The directory in use when none is configured. -/
def defaultDir : String := "mt32-roms"

/-- Either separator ends a directory's name. -/
def isSeparator (c : Char) : Bool := c == '/' || c == '\\'

/-- Puts the home directory, if known, for a `~` that stands alone or before a separator. -/
def resolveHome (env : SearchEnv) (path : String) : String :=
  match path.toList, env.home with
  | '~' :: rest, some home =>
    if rest.head?.all isSeparator then Text.trimEnd isSeparator home ++ String.ofList rest
    else path
  | _, _ => path

/-- Ends a directory's name with a separator, unless one ends it already. -/
def withSeparator (platform : Platform) (dir : String) : String :=
  if dir.toList.getLast?.any isSeparator then dir else dir.push platform.separator

/-- The directory for ROMs inside the configuration directory. -/
def configDir (platform : Platform) (env : SearchEnv) : List String :=
  env.configDir.toList.map fun dir =>
    (withSeparator platform dir ++ defaultDir).push platform.separator

def isBlankText (s : String) : Bool := s.toList.all isBlank

def withoutSlashes (dir : String) : String := Text.trimEnd (· == '/') dir

/-- The home of data files; a blank value counts as none. -/
def dataHome (env : SearchEnv) : String :=
  let value := (env.dataHome.filter fun s => !isBlankText s).getD "~/.local/share"
  withoutSlashes (resolveHome env value)

/-- The places inside the data directories, one for each that is not blank. -/
def dataDirs (env : SearchEnv) : List String :=
  let value := env.dataDirs.getD "/usr/local/share:/usr/share"
  let dirs := ((Text.split ':' value).map Text.trim).filter (· != "")
  dirs.map fun dir => withoutSlashes (resolveHome env dir) ++ "/mt32-rom-data/"

/-- The standard places of a platform. -/
def platformDirs (platform : Platform) (env : SearchEnv) : List String :=
  match platform with
  | .windows => ["..\\mt32-roms\\"] ++ configDir platform env ++ ["C:\\mt32-rom-data\\"]
  | .macos =>
    ["../mt32-roms/"] ++ configDir platform env ++
      [resolveHome env "~/Library/Audio/Sounds/MT32-Roms/", "/usr/local/share/mt32-rom-data/",
        "/usr/share/mt32-rom-data/"]
  | .xdg =>
    ["../mt32-roms/", dataHome env ++ "/dosbox/mt32-roms/", dataHome env ++ "/mt32-rom-data/"] ++
      dataDirs env ++ configDir platform env

/-- The user's directory; a blank one is the default. -/
def userDir (platform : Platform) (env : SearchEnv) (romdir : String) : String :=
  let dir := Text.trim romdir
  resolveHome env (withSeparator platform (if dir.isEmpty then defaultDir else dir))

/-- All directories to search: the user's, then the standard ones. -/
def order (platform : Platform) (env : SearchEnv) (romdir : String) : List String :=
  userDir platform env romdir :: platformDirs platform env

end Search

end SynthBridge
