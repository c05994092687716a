import SynthBridge.Text.Blank

/-!
# A tree of files

The files that a program sees: those below the root, those in its working directory and those
in the directory that holds it. Paths are followed part by part from the root or from the
working directory; a part leads on only from a directory, `..` leads to the directory above,
and of what lies outside the tree nothing exists.

The main definitions are `FileTree.locate`, which follows a path, and `FileTree.read` and
`FileTree.write`, each with the fault that it may meet.
-/

namespace SynthBridge

/-! ## Paths

Paths are texts whose parts are set apart by slashes. -/

namespace Path

/-- Whether a path starts at the root. -/
def isAbsolute (path : String) : Bool := path.toList.head? == some '/'

/-- The path of `name` inside `dir`. An absolute name stands for itself, and an empty directory
adds nothing; otherwise exactly one slash is made sure of between the two. -/
def join (dir name : String) : String :=
  if isAbsolute name then name
  else if dir.isEmpty || dir.toList.getLast? == some '/' then dir ++ name
  else dir ++ "/" ++ name

/-- The parts of a path that name a step: empty parts and `.` go nowhere. -/
def parts (path : String) : List String :=
  (Text.split '/' path).filter fun part => part != "" && part != "."

/-- The name that a path ends in; none where it ends in `..` or names nothing. -/
def fileName? (path : String) : Option String :=
  match (parts path).getLast? with
  | some name => if name = ".." then none else some name
  | none => none

end Path

/-! ## Files -/

/-- Why a file could not be read or written. -/
inductive StorageFault
  | notFound
  | isDirectory
  | notDirectory
  /-- A name, or the whole path, is too long. -/
  | nameTooLong
  /-- The path holds a null character. -/
  | badPath
  /-- The content is not text. -/
  | notText
  deriving DecidableEq, Repr

def StorageFault.message : StorageFault → String
  | .notFound => "No such file or directory (os error 2)"
  | .isDirectory => "Is a directory (os error 21)"
  | .notDirectory => "Not a directory (os error 20)"
  | .nameTooLong => "File name too long (os error 36)"
  | .badPath => "file name contained an unexpected NUL byte"
  | .notText => "stream did not contain valid UTF-8"

namespace FileTree

/-- The names on the way from the topmost directory. -/
abbrev Location := List String

inductive Node
  | file (content : ByteArray)
  | folder

end FileTree

/-- Files and directories by location, below a topmost directory. -/
structure FileTree where
  nodes : List (FileTree.Location × FileTree.Node)

namespace FileTree

/-- The working directory. No part of a path spells its name. -/
def workingDirectory : Location := [""]

/-- Where absolute paths begin. No part of a path spells its name either. -/
def rootDirectory : Location := ["/"]

/-- Only the working directory and the root, with nothing in them. -/
def empty : FileTree := ⟨[(workingDirectory, .folder), (rootDirectory, .folder)]⟩

/-- The longest name of a file, and the length that no path may reach, in bytes. -/
def maxName : Nat := 255

def maxPath : Nat := 4096

def node? (t : FileTree) (loc : Location) : Option Node :=
  if loc = [] then some .folder else t.nodes.lookup loc

def isFolder (t : FileTree) (loc : Location) : Bool :=
  match t.node? loc with
  | some .folder => true
  | _ => false

/-! ## Following paths -/

/-- Goes one part further from a location. -/
def enter (t : FileTree) (base : Location) (part : String) : Except StorageFault Location :=
  if !t.isFolder base then .error .notDirectory
  else if part = "." then .ok base
  else if part = ".." then
    if base = [] then .error .notFound
    else if base = rootDirectory then .ok base
    else .ok base.dropLast
  else if maxName < part.utf8ByteSize then .error .nameTooLong
  else if (t.node? (base ++ [part])).isNone then .error .notFound
  else .ok (base ++ [part])

/-- Goes part by part. -/
def follow (t : FileTree) (base : Location) (parts : List String) : Except StorageFault Location :=
  parts.foldlM t.enter base

/-- The faults of a path that are seen before anything is looked up. -/
def checkPath (path : String) : Except StorageFault Unit :=
  if '\x00' ∈ path.toList then .error .badPath
  else if maxPath ≤ path.utf8ByteSize then .error .nameTooLong
  else if path.isEmpty then .error .notFound
  else .ok ()

/-- The directory in which a path begins. -/
def start (path : String) : Location :=
  if Path.isAbsolute path then rootDirectory else workingDirectory

/-- The parts of a path that are looked up, `.` among them. -/
def steps (path : String) : List String := (Text.split '/' path).filter (· != "")

/-- The location that a path leads to. A path that ends in a slash leads to directories only. -/
def locate (t : FileTree) (path : String) : Except StorageFault Location := do
  checkPath path
  let loc ← t.follow (start path) (steps path)
  if path.toList.getLast? == some '/' && !t.isFolder loc then .error .notDirectory
  else .ok loc

def has (t : FileTree) (path : String) : Bool := (t.locate path).isOk

/-! ## Reading -/

/-- The content of a file. -/
def read (t : FileTree) (path : String) : Except StorageFault ByteArray := do
  let loc ← t.locate path
  match t.node? loc with
  | some (.file content) => .ok content
  | _ => .error .isDirectory

/-- The content of a file of text. -/
def readText (t : FileTree) (path : String) : Except StorageFault String := do
  let content ← t.read path
  match String.fromUTF8? content with
  | some text => .ok text
  | none => .error .notText

/-- Whether a path leads to a file with something in it. -/
def isNonEmptyFile (t : FileTree) (path : String) : Bool :=
  match t.read path with
  | .ok content => 0 < content.size
  | .error _ => false

/-! ## Writing -/

/-- Puts a node at a location, in place of what was there. -/
def put (t : FileTree) (loc : Location) (n : Node) : FileTree :=
  ⟨(loc, n) :: t.nodes.filter fun entry => entry.1 != loc⟩

/-- The location that a file at `path` would have, whether it is there or not. Neither a
directory nor a path that ends in a slash can be a file. -/
def locateNew (t : FileTree) (path : String) : Except StorageFault Location := do
  checkPath path
  match (steps path).getLast? with
  | none => .error .isDirectory
  | some last =>
    let parent ← t.follow (start path) (steps path).dropLast
    if !t.isFolder parent then .error .notDirectory
    else if last = "." || last = ".." then .error .isDirectory
    else if path.toList.getLast? == some '/' then .error .isDirectory
    else if maxName < last.utf8ByteSize then .error .nameTooLong
    else if t.isFolder (parent ++ [last]) then .error .isDirectory
    else .ok (parent ++ [last])

/-- Writes a file, in place of its former content. -/
def write (t : FileTree) (path : String) (content : ByteArray) : Except StorageFault FileTree := do
  let loc ← t.locateNew path
  .ok (t.put loc (.file content))

/-! ## Laying out and removing -/

/-- Makes the directories on the way along `parts`. -/
def makeFolders (t : FileTree) (base : Location) : List String → FileTree × Location
  | [] => (t, base)
  | part :: rest =>
    if part = "." then t.makeFolders base rest
    else if part = ".." then t.makeFolders base.dropLast rest
    else
      let loc := base ++ [part]
      let t := if (t.node? loc).isNone then t.put loc .folder else t
      t.makeFolders loc rest

/-- Lays out a file with the directories that it needs; a path that ends in a slash is a
directory. -/
def layOut (t : FileTree) (path : String) (content : ByteArray) : FileTree :=
  let steps := steps path
  if path.toList.getLast? == some '/' then (t.makeFolders (start path) steps).1
  else
    let (t, parent) := t.makeFolders (start path) steps.dropLast
    match steps.getLast? with
    | some last => t.put (parent ++ [last]) (.file content)
    | none => t

/-- Removes a file, or a directory with all in it; what is not there is left alone. -/
def remove (t : FileTree) (path : String) : FileTree :=
  match t.locate path with
  | .ok loc => ⟨t.nodes.filter fun entry => !loc.isPrefixOf entry.1⟩
  | .error _ => t

end FileTree

end SynthBridge
