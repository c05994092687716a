import SynthBridge.Engine.Settings
import SynthBridge.Failure
import SynthBridge.Json.Layout
import SynthBridge.Json.Record
import SynthBridge.Rom.Catalog

/-!
# Configurations

What a user can set: the model, the directory of the ROMs and the engine's settings. A
configuration is kept as JSON. Everything has a default, so the empty object is a
configuration; `Config.ofJson` overlays the defaults with what a text holds, and
`Config.json` writes everything out.
-/

namespace SynthBridge

/-- The user's settings. -/
structure Config where
  model : ModelSelector := .auto
  /-- The directory that is searched first; a blank one is the default. -/
  romdir : String := ""
  engine : EngineSettings := {}
  deriving DecidableEq

/-! ## Reading -/

namespace EngineSettings

/-- The members of the engine's settings. -/
def members : List (Json.Member EngineSettings) :=
  [.of "analog_mode" (Json.choice AnalogMode.table) fun s v => { s with analogMode := v },
    .of "dac_mode" (Json.choice DacMode.table) fun s v => { s with dacMode := v },
    .of "rate_conversion_quality" (Json.choice RateQuality.table)
      fun s v => { s with rateQuality := v },
    .of "nice_amp_ramp" Json.flag fun s v => { s with niceAmpRamp := v },
    .of "nice_panning" Json.flag fun s v => { s with nicePanning := v },
    .of "nice_partial_mixing" Json.flag fun s v => { s with nicePartialMixing := v }]

def reader : Json.Reader EngineSettings := Json.record "struct EngineSettings" members {}

end EngineSettings

namespace Config

/-- The members of a configuration. -/
def members : List (Json.Member Config) :=
  [.of "model" Json.text fun c v => { c with model := .ofText v },
    .of "romdir" Json.text fun c v => { c with romdir := v },
    .of "engine" EngineSettings.reader fun c v => { c with engine := v }]

def reader : Json.Reader Config := Json.record "struct BridgeConfig" members {}

/-- Reads a configuration. -/
def ofJson (s : String) : Except Failure Config :=
  match Json.whole reader s with
  | .ok c => .ok c
  | .error fault => .error (.json fault)

end Config

/-! ## Writing -/

def EngineSettings.layout (s : EngineSettings) : Json.Layout :=
  .object
    [("analog_mode", .text s.analogMode.name), ("dac_mode", .text s.dacMode.name),
      ("rate_conversion_quality", .text s.rateQuality.name),
      ("nice_amp_ramp", .flag s.niceAmpRamp), ("nice_panning", .flag s.nicePanning),
      ("nice_partial_mixing", .flag s.nicePartialMixing)]

namespace Config

def layout (c : Config) : Json.Layout :=
  .object
    [("model", .text c.model.text), ("romdir", .text c.romdir), ("engine", c.engine.layout)]

/-- Writes a configuration with all its settings. -/
def json (c : Config) : String := c.layout.render

/-! ## Files -/

/-- Reads a configuration file. -/
def load (t : FileTree) (path : String) : Except Failure Config :=
  match t.readText path with
  | .ok s => ofJson s
  | .error fault => .error (.storage fault)

/-- Writes a configuration file, in place of what was there. -/
def save (c : Config) (t : FileTree) (path : String) : Except Failure FileTree :=
  match t.write path c.json.toUTF8 with
  | .ok t => .ok t
  | .error fault => .error (.storage fault)

/-- A configuration has to select a model of the catalog. -/
def validate (c : Config) (catalog : Catalog) : Except Failure Unit := catalog.validate c.model

end Config

end SynthBridge
