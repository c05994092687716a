import SynthBridge.Rom.Model

/-!
# Selecting a model

A selector asks for a model by name, or for the first that can be used. It is read from a
text: blanks around it and the case of ASCII letters make no difference.
-/

namespace SynthBridge

/-- Which model is asked for. -/
inductive ModelSelector
  /-- The first usable model. -/
  | auto
  | named (name : String)
  deriving DecidableEq, Repr

namespace ModelSelector

instance : Inhabited ModelSelector := ⟨.auto⟩

/-- The text that selects the first usable model. -/
def autoText : String := "auto"

/-- Reads a selector. -/
def ofText (text : String) : ModelSelector :=
  let text := Text.lower (Text.trim text)
  if text.isEmpty || text == autoText then .auto else .named text

def text : ModelSelector → String
  | .auto => autoText
  | .named name => name

def isAuto : ModelSelector → Bool
  | .auto => true
  | .named _ => false

/-- Whether a model is a candidate. -/
def accepts : ModelSelector → Model → Bool
  | .auto, _ => true
  | .named name, m => m.name == name

end ModelSelector

end SynthBridge
