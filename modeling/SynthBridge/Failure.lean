import SynthBridge.Json.Message
import SynthBridge.Rom.Model
import SynthBridge.Storage.Tree

/-!
# What can go wrong

The failures that are reported to whoever asked for something, as causes; `Failure.message`
is the wording of each.
-/

namespace SynthBridge

/-- A reported failure. -/
inductive Failure
  /-- No model that the selector accepts could be loaded from the directories searched. -/
  | romsNotFound (selector : String) (searchOrder : List String)
  /-- The engine took the ROMs but refused to open. -/
  | engineRefused (code : Int)
  | invalidModel (name : String) (fault : ModelFault)
  | unknownModel (name : String)
  /-- The system did not start the render thread. -/
  | threadRefused (reason : String)
  | storage (fault : StorageFault)
  | json (fault : Json.Fault)
  deriving DecidableEq

namespace Failure

def message : Failure → String
  | .romsNotFound selector searchOrder =>
    let dirs := ", ".intercalate searchOrder
    s!"Could not find ROMs for model '{selector}' in directories: {dirs}"
  | .engineRefused code => s!"Error initialising emulation: engine returned {code}"
  | .invalidModel name fault =>
    let reason := fault.reason
    s!"Invalid model '{name}': {reason}"
  | .unknownModel name => s!"Unknown model '{name}'"
  | .threadRefused reason => s!"Failed to start render thread: {reason}"
  | .storage fault => "I/O error: " ++ fault.message
  | .json fault => "Invalid configuration: " ++ fault.message

/-- The failure beneath this one, in its own words. -/
def source? : Failure → Option String
  | .threadRefused reason => some reason
  | .storage fault => some fault.message
  | .json fault => some fault.message
  | _ => none

end Failure

end SynthBridge
