import SynthBridge.Rom.File

/-!
# Models

A model is one emulated device: a name and the files for its two roles. Every `Model` can be
filled in both roles and has a name; `Model.make` is the test. Models are told apart and
ordered by their names alone.
-/

namespace SynthBridge

/-- Why a definition is no model. -/
inductive ModelFault
  | emptyName
  | incompletePcm
  | incompleteControl
  deriving DecidableEq, Repr

def ModelFault.reason : ModelFault → String
  | .emptyName => "model name is empty"
  | .incompletePcm => "needs a full PCM ROM or a PCM ROM pair"
  | .incompleteControl => "needs a full control ROM or a control ROM pair"

/-- One emulated device. -/
structure Model where
  /-- The name used in configurations, as in `mt32_1_07`. -/
  name : String
  pcm : RomSet
  control : RomSet
  name_ne : name ≠ ""
  pcm_complete : pcm.isComplete = true
  control_complete : control.isComplete = true
  deriving DecidableEq

namespace Model

/-- A model of the given name and roles, or the first fault in that order. -/
def make (name : String) (pcm control : RomSet) : Except ModelFault Model :=
  if h : name = "" then .error .emptyName
  else if hp : pcm.isComplete = true then
    if hc : control.isComplete = true then .ok ⟨name, pcm, control, h, hp, hc⟩
    else .error .incompleteControl
  else .error .incompletePcm

/-- The short label of a listing: the name after its first underscore, or all of it. -/
def version (m : Model) : String :=
  match Text.splitOnce? '_' m.name with
  | some (_, rest) => rest
  | none => m.name

/-- Models with one name count as one. -/
def same (m n : Model) : Bool := m.name == n.name

def less (m n : Model) : Bool := decide (m.name < n.name)

/-- The places of some models in the order of the models; equals keep their order. -/
def order (ms : List Model) : List Nat :=
  (ms.zipIdx.mergeSort fun x y => !y.1.less x.1).map Prod.snd

/-- The places at which a list has a model of the same name. -/
def sameAs (m : Model) (ms : List Model) : List Nat :=
  (ms.zipIdx.filter fun x => m.same x.1).map Prod.snd

/-- Every file that the model may use: those for PCM first, then those for control. -/
def files (m : Model) : List RomFile := m.pcm.files ++ m.control.files

end Model

end SynthBridge
