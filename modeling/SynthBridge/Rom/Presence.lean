import SynthBridge.Engine.Basic
import SynthBridge.Rom.Catalog

/-!
# Which models are present

A model is present in a directory if both of its roles can be filled from there: the files
exist, something identifies them as ROMs, and where an id names a version the file is
reported under just that id. What was found for a catalog entry and a directory is
remembered, and the files are not looked at again.

`Inventory.check` is the test with its memory; beside the answer it tells which files were
looked at.
-/

namespace SynthBridge

/-- Something that tells ROM files. -/
abbrev Identifier := FileTree → String → Option RomInfo

/-- A file that was looked at, and what was made of it. -/
structure Look where
  path : String
  info : Option RomInfo
  deriving DecidableEq

namespace Presence

/-- Whether a file identified so can serve as `rom`. -/
def serves (rom : RomFile) : Option RomInfo → Bool
  | none => false
  | some info => !rom.isVersioned || info.reports rom.id

/-- Whether a ROM is present in a directory. A file that does not exist is not looked at. -/
def romPresent (identify : Identifier) (t : FileTree) (dir : String) (rom : RomFile) :
    Bool × List Look :=
  let path := rom.pathIn dir
  if t.has path then
    let info := identify t path
    (serves rom info, [⟨path, info⟩])
  else (false, [])

/-- Whether a role can be filled: by the full file, and only if not by both halves. -/
def rolePresent (identify : Identifier) (t : FileTree) (dir : String) (set : RomSet) :
    Bool × List Look :=
  let (full, looks) :=
    match set.full with
    | some rom => romPresent identify t dir rom
    | none => (false, [])
  if full then (true, looks)
  else
    match set.halves with
    | none => (false, looks)
    | some (a, b) =>
      let (hasA, looksA) := romPresent identify t dir a
      if hasA then
        let (hasB, looksB) := romPresent identify t dir b
        (hasB, looks ++ looksA ++ looksB)
      else (false, looks ++ looksA)

/-- Whether both roles can be filled; both are always looked at. -/
def modelPresent (identify : Identifier) (t : FileTree) (dir : String) (m : Model) :
    Bool × List Look :=
  let (pcm, looksPcm) := rolePresent identify t dir m.pcm
  let (control, looksControl) := rolePresent identify t dir m.control
  (pcm && control, looksPcm ++ looksControl)

end Presence

/-- A catalog and what is known of its models' presence, by place in the catalog and by
directory. -/
structure Inventory where
  catalog : Catalog
  known : List ((Nat × String) × Bool) := []

namespace Inventory

/-- Whether an entry is present in a directory. -/
def check (inv : Inventory) (identify : Identifier) (t : FileTree) (e : Catalog.Entry)
    (dir : String) : Bool × List Look × Inventory :=
  match inv.known.lookup (e.index, dir) with
  | some present => (present, [], inv)
  | none =>
    let (present, looks) := Presence.modelPresent identify t dir e.model
    (present, looks, { inv with known := ((e.index, dir), present) :: inv.known })

/-- Those of some entries that are present in a directory. -/
def presentAmong (inv : Inventory) (identify : Identifier) (t : FileTree) (dir : String) :
    List Catalog.Entry → List Catalog.Entry × List Look × Inventory
  | [] => ([], [], inv)
  | e :: rest =>
    let (present, looks, inv) := inv.check identify t e dir
    let (found, looks', inv) := inv.presentAmong identify t dir rest
    (if present then e :: found else found, looks ++ looks', inv)

/-- The models that are present in a directory, in the catalog's order. -/
def modelsIn (inv : Inventory) (identify : Identifier) (t : FileTree) (dir : String) :
    List Catalog.Entry × List Look × Inventory :=
  inv.presentAmong identify t dir inv.catalog.entries

/-- The entry of the first model of a name. -/
def entry? (inv : Inventory) (name : String) : Option Catalog.Entry :=
  inv.catalog.entries.find? fun e => e.model.name == name

end Inventory

/-! ## Telling ROMs by their names

Where no engine is at hand, a ROM is told by the name of its file: a file that is not empty and has
the name of a ROM of the catalog counts as that ROM. Where several ROMs share a name, the first in
the catalog counts. -/

namespace Probe

/-- What a ROM is taken for: control if its id starts so, PCM otherwise. -/
def infoOf (rom : RomFile) : RomInfo :=
  if rom.id.startsWith "ctrl" then { control := some rom.id } else { pcm := some rom.id }

/-- Every file of the catalog, in its order. -/
def files (c : Catalog) : List RomFile := c.models.flatMap Model.files

/-- The first ROM of the given file name. -/
def infoOfName? (c : Catalog) (name : String) : Option RomInfo :=
  ((files c).find? fun rom => rom.filename == name).map infoOf

/-- Tells a file by its name. -/
def identify (c : Catalog) : Identifier := fun t path => do
  let info ← infoOfName? c (← Path.fileName? path)
  if t.isNonEmptyFile path then some info else none

end Probe

end SynthBridge
