/-!
# Engine settings

How the engine is to emulate and to output: three choices among named modes and three switches.
The names are those used in configuration files.
-/

namespace SynthBridge

/-- Emulation of the analogue circuits. -/
inductive AnalogMode
  | digitalOnly
  | coarse
  | accurate
  | oversampled
  deriving DecidableEq, Repr

/-- Emulation of the converter's input. -/
inductive DacMode
  | nice
  | pure
  | generation1
  | generation2
  deriving DecidableEq, Repr

/-- Quality of the conversion between sample rates. -/
inductive RateQuality
  | fastest
  | fast
  | good
  | best
  deriving DecidableEq, Repr

/-- The names of a mode, in the order in which they are listed. -/
def AnalogMode.table : List (String × AnalogMode) :=
  [("digital_only", .digitalOnly), ("coarse", .coarse), ("accurate", .accurate),
    ("oversampled", .oversampled)]

def DacMode.table : List (String × DacMode) :=
  [("nice", .nice), ("pure", .pure), ("generation1", .generation1), ("generation2", .generation2)]

def RateQuality.table : List (String × RateQuality) :=
  [("fastest", .fastest), ("fast", .fast), ("good", .good), ("best", .best)]

def AnalogMode.name : AnalogMode → String
  | .digitalOnly => "digital_only"
  | .coarse => "coarse"
  | .accurate => "accurate"
  | .oversampled => "oversampled"

def DacMode.name : DacMode → String
  | .nice => "nice"
  | .pure => "pure"
  | .generation1 => "generation1"
  | .generation2 => "generation2"

def RateQuality.name : RateQuality → String
  | .fastest => "fastest"
  | .fast => "fast"
  | .good => "good"
  | .best => "best"

/-- What the engine is told before it is opened. -/
structure EngineSettings where
  analogMode : AnalogMode := .accurate
  dacMode : DacMode := .nice
  rateQuality : RateQuality := .best
  /-- Smoother volume ramps. -/
  niceAmpRamp : Bool := true
  nicePanning : Bool := true
  nicePartialMixing : Bool := true
  deriving DecidableEq, Repr

end SynthBridge
