/-!
# Faults of a JSON text

Why a text could not be read as a value of a given type. A fault is one of syntax, an early
end of the text, or data of the wrong kind.
-/

namespace SynthBridge.Json

/-- A value of the wrong kind, as an error text names it. -/
inductive Unexpected
  | null
  | bool (b : Bool)
  | integer (n : Int)
  /-- A number with a fraction, an exponent or too many digits, in decimal text. -/
  | float (text : String)
  | string (s : String)
  | sequence
  | map
  deriving DecidableEq, Repr

/-- Why a text was refused. -/
inductive Fault
  | eofValue
  | eofString
  | eofList
  | eofObject
  | expectedValue
  | expectedIdent
  | expectedColon
  | expectedListCommaOrEnd
  | expectedObjectCommaOrEnd
  | keyNotString
  | trailingComma
  | trailingCharacters
  | invalidNumber
  | numberOutOfRange
  | invalidEscape
  | controlCharacter
  | loneSurrogate
  | unexpectedEndOfHexEscape
  | invalidType (found : Unexpected) (expected : String)
  | unknownVariant (found : String) (expected : List String)
  | duplicateField (name : String)
  deriving DecidableEq, Repr

/-- The three sorts of fault. -/
inductive Category
  | syntaxFault
  | data
  | eof
  deriving DecidableEq, Repr

def Fault.category : Fault → Category
  | .eofValue | .eofString | .eofList | .eofObject => .eof
  | .invalidType .. | .unknownVariant .. | .duplicateField .. => .data
  | _ => .syntaxFault

end SynthBridge.Json
