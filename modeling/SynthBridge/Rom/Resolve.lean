import SynthBridge.Rom.Presence

/-!
# Finding a model and loading it

Candidates are tried in order. One that is present is loaded: each role from the full file,
or else from the halves, and the engine has to accept it as what the role asks for. The first
candidate that loads completely wins; one that loads in part is discarded.

`Loading.try` is one candidate and `Loading.resolve` all of them. A `Loading` carries the
engine and the catalog's memory along, with the calls made and the events logged.
-/

namespace SynthBridge

/-- An engine into which ROMs are being loaded. -/
structure Loading (α σ : Type) where
  engine : σ
  inventory : Inventory
  /-- What was asked of the engine, and what was logged. -/
  calls : List (Call α) := []
  log : List (Log α) := []

namespace Loading

variable {α σ : Type}

/-- Records the files that an engine was asked to identify. -/
def looked (looks : List Look) : List (Call α) := looks.map fun l => .identify l.path l.info

/-- Whether an entry is present in a directory, as the engine identifies files. -/
def check (E : Engine α σ) (t : FileTree) (l : Loading α σ) (e : Catalog.Entry) (dir : String) :
    Bool × Loading α σ :=
  let (present, looks, inventory) := l.inventory.check (E.identify l.engine) t e dir
  (present, { l with inventory, calls := l.calls ++ looked looks })

/-- Asks the engine to accept one file. -/
def add (E : Engine α σ) (t : FileTree) (l : Loading α σ) (path : String) :
    Option RomKind × Loading α σ :=
  let (kind, engine) := E.add l.engine t path
  (kind, { l with engine, calls := l.calls ++ [.add path kind] })

/-- Asks the engine to accept two halves. -/
def merge (E : Engine α σ) (t : FileTree) (l : Loading α σ) (first second : String) :
    Option RomKind × Loading α σ :=
  let (kind, engine) := E.merge l.engine t first second
  (kind, { l with engine, calls := l.calls ++ [.merge first second kind] })

/-- Loads one role, from the full file or else from the halves. -/
def loadRole (E : Engine α σ) (t : FileTree) (l : Loading α σ) (dir : String) (set : RomSet)
    (expected : RomKind) : Bool × Loading α σ :=
  let (full, l) :=
    match set.full with
    | some rom =>
      let (kind, l) := l.add E t (rom.pathIn dir)
      (kind == some expected, l)
    | none => (false, l)
  if full then (true, l)
  else
    match set.halves with
    | none => (false, l)
    | some (a, b) =>
      let (kind, l) := l.merge E t (a.pathIn dir) (b.pathIn dir)
      (kind == some expected, l)

/-- Loads both roles of an entry that is present; each is tried whatever became of the other. -/
def load (E : Engine α σ) (t : FileTree) (l : Loading α σ) (e : Catalog.Entry) (dir : String) :
    Bool × Loading α σ :=
  let (present, l) := l.check E t e dir
  if present then
    let (pcm, l) := l.loadRole E t dir e.model.pcm .pcm
    let (control, l) := l.loadRole E t dir e.model.control .control
    (pcm && control, l)
  else (false, l)

/-- Tries one candidate. -/
def tryCandidate (E : Engine α σ) (t : FileTree) (l : Loading α σ) (c : Catalog.Candidate) :
    Bool × Loading α σ :=
  let (present, l) := l.check E t c.entry c.dir
  if !present then (false, l)
  else
    let (loaded, l) := l.load E t c.entry c.dir
    if loaded then (true, { l with log := l.log ++ [.loaded c.entry.model.name c.dir] })
    else
      (false, { l with
        engine := E.discard l.engine
        calls := l.calls ++ [.discard]
        log := l.log ++ [.loadFailed c.entry.model.name c.dir] })

/-- The first candidate that loads. -/
def firstLoaded (E : Engine α σ) (t : FileTree) (l : Loading α σ) :
    List Catalog.Candidate → Option Catalog.Candidate × Loading α σ
  | [] => (none, l)
  | c :: rest =>
    let (loaded, l) := l.tryCandidate E t c
    if loaded then (some c, l) else l.firstLoaded E t rest

/-- Loads the first usable model that a selector accepts. -/
def resolve (E : Engine α σ) (t : FileTree) (l : Loading α σ) (selector : ModelSelector)
    (dirs : List String) : Except Failure Catalog.Candidate × Loading α σ :=
  match l.firstLoaded E t (l.inventory.catalog.candidates selector dirs) with
  | (some c, l) => (.ok c, l)
  | (none, l) => (.error (.romsNotFound selector.text dirs), l)

end Loading

end SynthBridge
