import SynthBridge.Config
import SynthBridge.Proofs.Json.Record
import SynthBridge.Proofs.Storage.Tree
import SynthBridge.Proofs.Text.Blank

/-!
# Configurations survive being written

A configuration is read back from its own text and from the file that it is saved to: every value
is read as it was written (`EngineSettings.reads_layout`, `Config.reads_layout`) and put over the
default of its member. A selector is written as its name and comes back if it is one that a text
can give, and only then (`Config.ofJson_json_eq_iff`).
-/

namespace SynthBridge

/-! ## Selectors -/

/-- **A selector is read from its own text**, if it was read from any. -/
theorem ModelSelector.ofText_text_ofText (s : String) : ofText (ofText s).text = ofText s := by
  have again : Text.lower (Text.trim (Text.lower (Text.trim s))) = Text.lower (Text.trim s) := by
    rw [Text.trim_lower_trim, Text.lower_lower]
  have auto : ofText autoText = .auto := by decide
  cases wild : (Text.lower (Text.trim s)).isEmpty || Text.lower (Text.trim s) == autoText with
  | true =>
    have read : ofText s = .auto := by simp only [ofText, wild, if_true]
    rw [read]
    exact auto
  | false =>
    have read : ofText s = .named (Text.lower (Text.trim s)) := by
      simp only [ofText, wild, Bool.false_eq_true, if_false]
    rw [read]
    simp only [ofText, text, again, wild, Bool.false_eq_true, if_false]

/-! ## The engine's settings -/

theorem AnalogMode.lookup_name (m : AnalogMode) : AnalogMode.table.lookup m.name = some m := by
  cases m <;> rfl

theorem DacMode.lookup_name (m : DacMode) : DacMode.table.lookup m.name = some m := by
  cases m <;> rfl

theorem RateQuality.lookup_name (q : RateQuality) : RateQuality.table.lookup q.name = some q := by
  cases q <;> rfl

theorem EngineSettings.reads_layout (s : EngineSettings) (depth : Nat) :
    Json.Reads EngineSettings.reader (s.layout.write depth) s := by
  have distinct : ["analog_mode", "dac_mode", "rate_conversion_quality", "nice_amp_ramp",
      "nice_panning", "nice_partial_mixing"].Nodup := by decide
  apply Json.reads_record
  · apply Json.Overlay.put rfl fun _ => Json.reads_choice s.analogMode.lookup_name
    apply Json.Overlay.put rfl fun _ => Json.reads_choice s.dacMode.lookup_name
    apply Json.Overlay.put rfl fun _ => Json.reads_choice s.rateQuality.lookup_name
    apply Json.Overlay.put rfl fun _ => Json.reads_flag s.niceAmpRamp
    apply Json.Overlay.put rfl fun _ => Json.reads_flag s.nicePanning
    apply Json.Overlay.put rfl fun _ => Json.reads_flag s.nicePartialMixing
    exact Json.Overlay.nil s
  · exact distinct

/-! ## Configurations -/

namespace Config

/-- Everything is read as it was written, but for a selector that no text gives. -/
theorem reads_layout (c : Config) (depth : Nat) :
    Json.Reads reader (c.layout.write depth) { c with model := .ofText c.model.text } := by
  have distinct : ["model", "romdir", "engine"].Nodup := by decide
  apply Json.reads_record
  · apply Json.Overlay.put rfl fun _ => Json.reads_text c.model.text
    apply Json.Overlay.put rfl fun _ => Json.reads_text c.romdir
    apply Json.Overlay.put rfl fun depth => c.engine.reads_layout depth
    dsimp only
    exact Json.Overlay.nil _
  · exact distinct

theorem ofJson_json (c : Config) :
    ofJson c.json = .ok { c with model := .ofText c.model.text } := by
  have read := c.reads_layout 0 [] [] Json.blank_nil
  rw [List.nil_append, List.append_nil] at read
  have whole : Json.whole reader c.json = .ok { c with model := .ofText c.model.text } := by
    rw [Json.whole, json, Json.Layout.render, String.toList_ofList, read]
    rfl
  rw [ofJson, whole]

/-- A configuration is read back from its text just if its selector is one that a text gives. -/
theorem ofJson_json_eq_iff (c : Config) :
    ofJson c.json = .ok c ↔ ∃ s, c.model = .ofText s := by
  obtain ⟨model, romdir, engine⟩ := c
  simp only [ofJson_json, Except.ok.injEq, Config.mk.injEq, and_true]
  constructor
  · intro same
    exact ⟨model.text, same.symm⟩
  · rintro ⟨s, parsed⟩
    rw [parsed, ModelSelector.ofText_text_ofText]

/-- A file that a configuration was saved to is read as its text. -/
theorem load_of_save {c : Config} {t t' : FileTree} {path : String}
    (saved : c.save t path = .ok t') : load t' path = ofJson c.json := by
  unfold save at saved
  split at saved
  · rename_i written
    obtain rfl := Except.ok.inj saved
    rw [load, FileTree.readText_write written]
  · cases saved

/-- **A configuration survives being written**, as a text and as a file, if its selector is one
that a text can give; its text survives being read. Selectors survive on their own. -/
theorem json_round_trip (c : Config) (s : String) (parsed : c.model = .ofText s) :
    ofJson c.json = .ok c ∧
    (∀ t path t', c.save t path = .ok t' → load t' path = .ok c) ∧
    (ofJson c.json).map json = .ok c.json ∧
    ∀ s, ModelSelector.ofText (ModelSelector.ofText s).text = ModelSelector.ofText s := by
  have read : ofJson c.json = .ok c := (ofJson_json_eq_iff c).2 ⟨s, parsed⟩
  refine ⟨read, ?_, ?_, ModelSelector.ofText_text_ofText⟩
  · intro t path t' saved
    rw [load_of_save saved, read]
  · rw [read]
    rfl

/-- A configuration of which much is escaped: a quote, a backslash, control characters. -/
def escaped : Config where
  model := .ofText "\t\"MT32\\1.07 "
  romdir := " roms/\x01\x1f\x7f\n\"\\😀é"
  engine := { analogMode := .coarse, dacMode := .generation1, niceAmpRamp := false }

theorem json_round_trip_escaped :
    escaped.model = .named "\"mt32\\1.07" ∧ ofJson escaped.json = .ok escaped ∧
    (ofJson escaped.json).map json = .ok escaped.json ∧
    ∃ t, escaped.save FileTree.empty "mt32.json" = .ok t ∧ load t "mt32.json" = .ok escaped := by
  have named : escaped.model = .named "\"mt32\\1.07" := by decide
  obtain ⟨read, loaded, written, -⟩ := json_round_trip escaped "\t\"MT32\\1.07 " rfl
  have saves : (escaped.save FileTree.empty "mt32.json").isOk = true := by decide +kernel
  refine ⟨named, read, written, ?_⟩
  cases saved : escaped.save FileTree.empty "mt32.json" with
  | error fault => simp [saved, Except.isOk, Except.toBool] at saves
  | ok t => exact ⟨t, rfl, loaded FileTree.empty "mt32.json" t saved⟩

end Config

end SynthBridge
