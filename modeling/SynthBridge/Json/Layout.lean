import SynthBridge.Json.Text

/-!
# Writing JSON

Objects are laid out with a member on each line, two blanks deeper than the object itself.
-/

namespace SynthBridge.Json

/-- A value to be written. -/
inductive Layout
  | text (s : String)
  | flag (b : Bool)
  | object (members : List (String × Layout))

namespace Layout

/-- A new line at a depth of nesting. -/
def newLine (depth : Nat) : List Char := '\n' :: List.replicate (2 * depth) ' '

def writeFlag (b : Bool) : List Char :=
  if b then ['t', 'r', 'u', 'e'] else ['f', 'a', 'l', 's', 'e']

mutual

/-- The characters of a value at a depth of nesting. -/
def write (depth : Nat) : Layout → List Char
  | .text s => writeText s
  | .flag b => writeFlag b
  | .object ms =>
    '{' :: writeMembers (depth + 1) true ms ++ (if ms.isEmpty then [] else newLine depth) ++ ['}']

/-- The members of an object, a comma before each but the first. -/
def writeMembers (depth : Nat) (first : Bool) : List (String × Layout) → List Char
  | [] => []
  | m :: ms => (if first then [] else [',']) ++ writeMember depth m ++ writeMembers depth false ms

/-- One member on a line of its own. -/
def writeMember (depth : Nat) : String × Layout → List Char
  | (name, value) => newLine depth ++ writeText name ++ [':', ' '] ++ value.write depth

end

/-- The text of a value. -/
def render (l : Layout) : String := String.ofList (l.write 0)

end Layout

end SynthBridge.Json
