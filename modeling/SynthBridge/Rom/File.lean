import SynthBridge.Storage.Tree

/-!
# ROM files and roles

A device needs a ROM in each of two roles. A role is filled by one full file or by a pair of
half files; `RomSet` holds the files that are known for a role.
-/

namespace SynthBridge

/-- A ROM: the id that the engine knows it by, and the name of its file. -/
structure RomFile where
  id : String
  filename : String
  deriving DecidableEq, Repr

namespace RomFile

/-- Whether the id names a version: it has more than one underscore, as in `ctrl_mt32_1_07_a`
but not in `pcm_mt32`. -/
def isVersioned (rom : RomFile) : Bool := 2 ≤ rom.id.toList.count '_'

/-- The path of the file inside a directory. -/
def pathIn (rom : RomFile) (dir : String) : String := Path.join dir rom.filename

end RomFile

/-- The files known for a role. -/
structure RomSet where
  full : Option RomFile := none
  a : Option RomFile := none
  b : Option RomFile := none
  deriving DecidableEq, Repr

namespace RomSet

/-- A role filled by one file only. -/
def ofFull (rom : RomFile) : RomSet := { full := some rom }

/-- A role filled by a pair of halves only. -/
def ofPair (a b : RomFile) : RomSet := { a := some a, b := some b }

/-- A role filled by one file or else by a pair. -/
def ofFullOrPair (full a b : RomFile) : RomSet := ⟨some full, some a, some b⟩

/-- The pair, where both halves are known. -/
def halves (set : RomSet) : Option (RomFile × RomFile) :=
  match set.a, set.b with
  | some a, some b => some (a, b)
  | _, _ => none

/-- Whether there is a way to fill the role. -/
def isComplete (set : RomSet) : Bool := set.full.isSome || set.halves.isSome

/-- The known files, the full one first. -/
def files (set : RomSet) : List RomFile := set.full.toList ++ set.a.toList ++ set.b.toList

end RomSet

end SynthBridge
