import SynthBridge.Proofs.Config

/-!
# Parts of configurations

A text that holds some of the settings is read as these over the defaults, at both levels
(`Config.ofJson_part`). The order of the members, blanks, the spelling of texts, and members of
other names make no difference. A name has to spell something, though, also one that is not known:
half of a pair of units may be escaped in a value that is skipped, but not in a name that is read.
-/

namespace SynthBridge

/-! ## The engine's settings -/

namespace EngineSettings

def names : List String :=
  ["analog_mode", "dac_mode", "rate_conversion_quality", "nice_amp_ramp", "nice_panning",
    "nice_partial_mixing"]

/-- The values of settings as texts: modes by their names, in any spelling. -/
inductive Holds (s : EngineSettings) : String → List Char → Prop
  | analogMode {cs : List Char} : Json.SpellsText cs s.analogMode.name → s.Holds "analog_mode" cs
  | dacMode {cs : List Char} : Json.SpellsText cs s.dacMode.name → s.Holds "dac_mode" cs
  | rateQuality {cs : List Char} : Json.SpellsText cs s.rateQuality.name →
    s.Holds "rate_conversion_quality" cs
  | niceAmpRamp : s.Holds "nice_amp_ramp" (Json.Layout.writeFlag s.niceAmpRamp)
  | nicePanning : s.Holds "nice_panning" (Json.Layout.writeFlag s.nicePanning)
  | nicePartialMixing : s.Holds "nice_partial_mixing" (Json.Layout.writeFlag s.nicePartialMixing)

/-- The settings of the given names, and the defaults elsewhere. -/
def part (s : EngineSettings) (S : List String) : EngineSettings :=
  let d : EngineSettings := {}
  { analogMode := if "analog_mode" ∈ S then s.analogMode else d.analogMode
    dacMode := if "dac_mode" ∈ S then s.dacMode else d.dacMode
    rateQuality := if "rate_conversion_quality" ∈ S then s.rateQuality else d.rateQuality
    niceAmpRamp := if "nice_amp_ramp" ∈ S then s.niceAmpRamp else d.niceAmpRamp
    nicePanning := if "nice_panning" ∈ S then s.nicePanning else d.nicePanning
    nicePartialMixing :=
      if "nice_partial_mixing" ∈ S then s.nicePartialMixing else d.nicePartialMixing }

variable {s : EngineSettings}

theorem adds_of_holds {name : String} {value : List Char} (h : s.Holds name value) :
    Json.Adds members s.part name value := by
  cases h with
  | analogMode spells =>
    have read := Json.reads_choice_of_spells s.analogMode.lookup_name spells
    exact Json.adds_of rfl read fun seen => by simp [part]
  | dacMode spells =>
    have read := Json.reads_choice_of_spells s.dacMode.lookup_name spells
    exact Json.adds_of rfl read fun seen => by simp [part]
  | rateQuality spells =>
    have read := Json.reads_choice_of_spells s.rateQuality.lookup_name spells
    exact Json.adds_of rfl read fun seen => by simp [part]
  | niceAmpRamp => exact Json.adds_of rfl (Json.reads_flag s.niceAmpRamp) fun seen => by simp [part]
  | nicePanning => exact Json.adds_of rfl (Json.reads_flag s.nicePanning) fun seen => by simp [part]
  | nicePartialMixing =>
    exact Json.adds_of rfl (Json.reads_flag s.nicePartialMixing) fun seen => by simp [part]

/-- **Some of the engine's settings are read** over the defaults. -/
theorem reads_part {S : List String} {cs : List Char} (h : Json.IsPart names S s.Holds cs) :
    Json.Reads reader cs (s.part S) := by
  apply Json.reads_part rfl adds_of_holds _ h
  intro S S' same
  simp only [part, same]

end EngineSettings

/-! ## Configurations -/

namespace Config

def names : List String := ["model", "romdir", "engine"]

/-- The values of a configuration as texts, `T` being the settings that its engine's object has. A
selector is held by every text that it is read from. -/
inductive Holds (c : Config) (T : List String) : String → List Char → Prop
  | model {cs : List Char} {s : String} : Json.SpellsText cs s → ModelSelector.ofText s = c.model →
    c.Holds T "model" cs
  | romdir {cs : List Char} : Json.SpellsText cs c.romdir → c.Holds T "romdir" cs
  | engine {cs : List Char} : Json.IsPart EngineSettings.names T c.engine.Holds cs →
    c.Holds T "engine" cs

/-- The settings of the names `S`, of the engine those of the names `T`, and the defaults
elsewhere. -/
def part (c : Config) (T S : List String) : Config :=
  let d : Config := {}
  { model := if "model" ∈ S then c.model else d.model
    romdir := if "romdir" ∈ S then c.romdir else d.romdir
    engine := if "engine" ∈ S then c.engine.part T else d.engine }

variable {c : Config} {S T : List String}

theorem adds_of_holds {name : String} {value : List Char} (h : c.Holds T name value) :
    Json.Adds members (c.part T) name value := by
  cases h with
  | model spells parsed =>
    exact Json.adds_of rfl (Json.reads_text_of_spells spells) fun seen => by simp [part, parsed]
  | romdir spells =>
    exact Json.adds_of rfl (Json.reads_text_of_spells spells) fun seen => by simp [part]
  | engine held =>
    exact Json.adds_of rfl (EngineSettings.reads_part held) fun seen => by simp [part]

theorem reads_part {cs : List Char} (h : Json.IsPart names S (c.Holds T) cs) :
    Json.Reads reader cs (c.part T S) := by
  apply Json.reads_part rfl adds_of_holds _ h
  intro S S' same
  simp only [part, same]

/-- **Some of the settings are read over the defaults**, in whatever order they stand, with blanks
wherever these are allowed, and among members of other names with whatever values. -/
theorem ofJson_part (front back : Json.Space) {cs : List Char}
    (h : Json.IsPart names S (c.Holds T) cs) :
    ofJson (String.ofList (front ++ (cs ++ back))) = .ok (c.part T S) := by
  have ends : Json.skipBlank back = [] := by
    have := Json.skipBlank_append back.2 []
    rwa [List.append_nil] at this
  have whole : Json.whole reader (String.ofList (front ++ (cs ++ back))) = .ok (c.part T S) := by
    rw [Json.whole, String.toList_ofList, reads_part h front back front.2]
    simp only [bind, Except.bind, ends, List.isEmpty_nil, if_true]
  rw [ofJson, whole]

/-- A member with no blank behind its name, of which no character is escaped. -/
def bareEntry (front : Json.Space) {word : String} (plain : word.toList.all (Json.IsPlain ·) = true)
    (value : List Char) : Json.Entry where
  front := front
  name := word.toList
  behindName := Json.noSpace
  behindColon := Json.noSpace
  value := value
  back := Json.noSpace
  word := word
  spelled := Json.spells_self plain

/-- Two settings that are not the defaults. -/
def few : Config where
  romdir := "r"
  engine := { nicePanning := false }

def fewEngine : List Json.Entry :=
  [@bareEntry Json.noSpace "nice_panning" (by decide) ['f', 'a', 'l', 's', 'e'],
    @bareEntry Json.noSpace "z" (by decide) ['n', 'u', 'l', 'l']]

theorem isPart_fewEngine : Json.IsPart EngineSettings.names ["nice_panning"] few.engine.Holds
    (Json.objectText (fewEngine.map Json.Entry.toMemberText) Json.noSpace) := by
  refine ⟨fewEngine, Json.noSpace, rfl, by decide, by decide, ?_⟩
  rw [fewEngine, List.forall_mem_cons, List.forall_mem_singleton]
  constructor
  · exact EngineSettings.Holds.nicePanning
  · exact Json.IsValue.word (by decide)

/-- A number, and half of a pair of units. -/
def fewOther : List Char :=
  Json.listText [⟨Json.noSpace, ['-', '0', '.', '5', 'e', '1'], Json.noSpace⟩,
    ⟨Json.noSpace, Json.quoted Json.halfPair, Json.noSpace⟩] Json.noSpace

theorem isValue_fewOther : Json.IsValue fewOther := by
  have zero : Json.IsDigits ['0'] := Json.isDigits_singleton rfl
  have five : Json.IsDigits ['5'] := Json.isDigits_singleton rfl
  have one : Json.IsDigits ['1'] := Json.isDigits_singleton rfl
  have power : Json.IsExponent ['e', '1'] :=
    @Json.IsExponent.power 'e' [] ['1'] (by decide) (by decide) one
  have number : Json.IsValue ['-', '0', '.', '5', 'e', '1'] :=
    .negative (.parts zero (fun _ => rfl) (.places five) power)
  apply Json.IsValue.list
  rw [List.forall_mem_cons, List.forall_mem_singleton]
  exact ⟨number, .text Json.isText_halfPair⟩

theorem spells_romdir : Json.Spells ['r', 'o', 'm', '\\', 'u', '0', '0', '6', '4', 'i', 'r']
    "romdir".toList := by
  have unit : Json.IsUnit ['0', '0', '6', '4'] 'd'.toNat :=
    @Json.IsUnit.digits '0' '0' '6' '4' 0 0 6 4 (by decide) (by decide) (by decide) (by decide)
  have escaped := Json.Spells.unit unit (@Json.spells_self ['i', 'r'] (by decide))
  exact .plain (by decide) (.plain (by decide) (.plain (by decide) escaped))

def fewEntries : List Json.Entry :=
  [@bareEntry Json.noSpace "x" (by decide) fewOther,
    @bareEntry Json.oneSpace "engine" (by decide)
      (Json.objectText (fewEngine.map Json.Entry.toMemberText) Json.noSpace),
    { @bareEntry Json.oneSpace "romdir" (by decide) ['"', 'r', '"'] with
      name := ['r', 'o', 'm', '\\', 'u', '0', '0', '6', '4', 'i', 'r']
      spelled := spells_romdir }]

def fewText : List Char := Json.objectText (fewEntries.map Json.Entry.toMemberText) Json.noSpace

/-- Here the engine stands in front of the directory, a letter of a name is escaped, and other
members are passed over at both levels. -/
theorem ofJson_part_reordered :
    Json.IsPart names ["engine", "romdir"] (few.Holds ["nice_panning"]) fewText ∧
    ofJson ("\x7b\"x\":[-0.5e1,\"\\ud800\"]," ++
      " \"engine\":\x7b\"nice_panning\":false,\"z\":null\x7d," ++
      " \"rom\\u0064ir\":\"r\"\x7d") = .ok few := by
  have h : Json.IsPart names ["engine", "romdir"] (few.Holds ["nice_panning"]) fewText := by
    refine ⟨fewEntries, Json.noSpace, rfl, by decide, by decide, ?_⟩
    rw [fewEntries, List.forall_mem_cons, List.forall_mem_cons, List.forall_mem_singleton]
    refine ⟨isValue_fewOther, Holds.engine isPart_fewEngine, Holds.romdir ?_⟩
    exact ⟨['r'], rfl, Json.spells_self (by decide)⟩
  have written : String.ofList (Json.noSpace ++ (fewText ++ Json.noSpace)) =
      "\x7b\"x\":[-0.5e1,\"\\ud800\"]," ++
        " \"engine\":\x7b\"nice_panning\":false,\"z\":null\x7d," ++
        " \"rom\\u0064ir\":\"r\"\x7d" := by rfl
  have read := ofJson_part Json.noSpace Json.noSpace h
  rw [written] at read
  have whole : few.part ["nice_panning"] ["engine", "romdir"] = few := by decide
  rw [whole] at read
  exact ⟨h, read⟩

/-! ## Names that spell nothing -/

def halfPairText : List Char :=
  Json.objectText [⟨Json.noSpace, Json.halfPair, Json.noSpace, Json.oneSpace, ['1'], Json.noSpace⟩]
    Json.noSpace

/-- An object whose one name spells nothing is a JSON value and holds none of the settings, but it
is refused and not read as the defaults. -/
theorem ofJson_halfPair :
    String.ofList halfPairText = "\x7b\"\\ud800\": 1\x7d" ∧ Json.IsValue halfPairText ∧
    (∀ name, ¬ Json.Spells Json.halfPair name) ∧
    ofJson "\x7b\"\\ud800\": 1\x7d" = .error (.json .unexpectedEndOfHexEscape) := by
  have written : String.ofList halfPairText = "\x7b\"\\ud800\": 1\x7d" := by rfl
  have one : Json.IsDigits ['1'] := Json.isDigits_singleton rfl
  have value : Json.IsValue ['1'] := .unsigned (.parts one (by decide) .none .none)
  have refused : reader halfPairText = .error .unexpectedEndOfHexEscape := by rfl
  refine ⟨written, ?_, Json.not_spells_halfPair, ?_⟩
  · exact .object _ (by simpa using Json.isText_halfPair) (by simpa using value)
  · rw [← written, ofJson, Json.whole, String.toList_ofList, refused]
    rfl

end Config

end SynthBridge
