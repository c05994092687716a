import SynthBridge.Failure
import SynthBridge.Rom.Selector

/-!
# Catalogs

The models to choose from, in order of preference.
-/

namespace SynthBridge

/-- Models in order of preference. -/
structure Catalog where
  models : List Model

namespace Catalog

def names (c : Catalog) : List String := c.models.map Model.name

/-- The first model of a name. -/
def get? (c : Catalog) (name : String) : Option Model := c.models.find? fun m => m.name == name

/-- The place of the first model of a name. -/
def indexOf? (c : Catalog) (name : String) : Option Nat :=
  c.models.findIdx? fun m => m.name == name

/-- A selector that names a model has to name one of the catalog. -/
def validate (c : Catalog) : ModelSelector → Except Failure Unit
  | .auto => .ok ()
  | .named name => if (c.get? name).isSome then .ok () else .error (.unknownModel name)

/-- A model together with its place in the catalog. -/
structure Entry where
  index : Nat
  model : Model

/-- The models with their places. -/
def entries (c : Catalog) : List Entry := c.models.zipIdx.map fun (model, index) => ⟨index, model⟩

/-- A model to be tried in a directory. -/
structure Candidate where
  entry : Entry
  dir : String

/-- What a selector leaves to be tried: models in order of preference, and for each of them the
directories in the order in which they are searched. -/
def candidates (c : Catalog) (selector : ModelSelector) (dirs : List String) : List Candidate :=
  (c.entries.filter fun e => selector.accepts e.model).flatMap fun e => dirs.map (⟨e, ·⟩)

/-- The definition of a model as it is written down. -/
structure Definition where
  name : String
  pcm : RomSet
  control : RomSet

def Definition.model (d : Definition) : Except Failure Model :=
  match Model.make d.name d.pcm d.control with
  | .ok m => .ok m
  | .error fault => .error (.invalidModel d.name fault)

/-- The catalog of some definitions, or the failure of the first that is no model. -/
def ofDefinitions (ds : List Definition) : Except Failure Catalog := do
  return ⟨← ds.mapM Definition.model⟩

end Catalog

end SynthBridge
