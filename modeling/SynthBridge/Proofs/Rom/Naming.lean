import SynthBridge.Proofs.Rom.Resolve
import SynthBridge.Proofs.Text.Blank

/-!
# Selecting models by name

A selector that was read from a text has the lower case of what is left of it without the blanks
around it (`ModelSelector.ofText_of_named`), and a model is compared with that as it is called. So
the case of ASCII letters does not matter in the text, and a model can be selected just if its own
name has none in upper case: `ModelSelector.selects_lower_names`. Others cannot be selected, not
even by their own name (`ModelSelector.upper_never_selected`).
-/

namespace SynthBridge

/-- What a search finds is one of its candidates. -/
theorem Loading.mem_of_firstLoaded {α σ : Type} {E : Engine α σ} {t : FileTree} {l : Loading α σ}
    {cs : List Catalog.Candidate} {c : Catalog.Candidate}
    (found : (l.firstLoaded E t cs).1 = some c) : c ∈ cs := by
  induction cs generalizing l with
  | nil => cases found
  | cons first rest ih =>
    unfold Loading.firstLoaded at found
    dsimp only at found
    split at found
    · cases found
      exact List.mem_cons_self
    · exact List.mem_cons_of_mem first (ih found)

namespace ModelSelector

variable {C : Catalog} {m : Model} {s : String}

/-- A text that is neither blank nor the automatic one selects a name in lower case. -/
theorem ofText_of_named (some : Text.trim s ≠ "")
    (named : ¬ Text.SameButCase (Text.trim s) autoText) :
    ofText s = .named (Text.lower (Text.trim s)) := by
  have nonempty : (Text.lower (Text.trim s)).isEmpty = false := by
    rw [← Bool.not_eq_true, String.isEmpty_iff, ← String.toList_eq_nil_iff, Text.lower,
      String.toList_ofList, List.map_eq_nil_iff, String.toList_eq_nil_iff]
    exact some
  have other : (Text.lower (Text.trim s) == autoText) = false := by
    rw [beq_eq_false_iff_ne]
    intro same
    exact named (Text.sameButCase_iff.2 (same.trans (by decide)))
  simp only [ofText, nonempty, other, Bool.or_self, Bool.false_eq_true, if_false]

/-- A name is the lower case of a text if it differs in case only and is in lower case itself. -/
theorem eq_lower_iff {name s : String} :
    name = Text.lower s ↔ Text.SameButCase name s ∧ Text.IsLower name := by
  rw [Text.sameButCase_iff, ← Text.lower_eq_self_iff]
  constructor
  · rintro rfl
    exact ⟨Text.lower_lower s, Text.lower_lower s⟩
  · rintro ⟨same, isLower⟩
    rw [← isLower, same]

/-- Whether a text means a model: it is called so, but for the case of letters in the text. -/
def Means (s : String) (m : Model) : Prop :=
  Text.SameButCase m.name (Text.trim s) ∧ Text.IsLower m.name

theorem accepts_iff (some : Text.trim s ≠ "")
    (named : ¬ Text.SameButCase (Text.trim s) autoText) :
    (ofText s).accepts m = true ↔ Means s m := by
  rw [ofText_of_named some named, accepts, beq_iff_eq, eq_lower_iff, Means]

/-- A selector is valid if the catalog has a model that it accepts. -/
theorem validate_of_named (C : Catalog) (name : String) :
    ((∃ m ∈ C.models, (named name).accepts m = true) → C.validate (.named name) = .ok ()) ∧
    ((¬ ∃ m ∈ C.models, (named name).accepts m = true) →
      C.validate (.named name) = .error (.unknownModel name)) := by
  have known : (C.get? name).isSome = true ↔ ∃ m ∈ C.models, (named name).accepts m = true := by
    rw [Catalog.get?, List.find?_isSome]
    rfl
  rw [← known, Catalog.validate]
  exact ⟨fun known => if_pos known, fun unknown => if_neg unknown⟩

/-- **Selecting by name.** A text that, without the blanks around it, is neither empty nor `auto` in
any case accepts just the models that are called so but for the case of its letters, and have no
upper-case letter themselves. It is valid just if the catalog has such a model, and only such a
model can be loaded by it. So a model that is not called `auto` and has no blanks around its name is
accepted by its own name, and validates, just if that is in lower case. -/
theorem selects_lower_names (C : Catalog) (s : String) (some : Text.trim s ≠ "")
    (named : ¬ Text.SameButCase (Text.trim s) autoText) :
    (∀ m, (ofText s).accepts m = true ↔ Means s m) ∧
    (C.validate (ofText s) = .ok () ↔ ∃ m ∈ C.models, Means s m) ∧
    ((¬ ∃ m ∈ C.models, Means s m) →
      C.validate (ofText s) = .error (.unknownModel (Text.lower (Text.trim s)))) ∧
    (∀ (α σ : Type) (E : Engine α σ) (t : FileTree) (l : Loading α σ) (dirs : List String)
      (c : Catalog.Candidate), l.inventory.catalog = C → (l.resolve E t (ofText s) dirs).1 = .ok c →
        c.entry.model ∈ C.models ∧ Means s c.entry.model) ∧
    ∀ m ∈ C.models, Text.trim m.name = m.name → ¬ Text.SameButCase m.name autoText →
      ((ofText m.name).accepts m = true ↔ Text.IsLower m.name) ∧
      (Text.IsLower m.name → C.validate (ofText m.name) = .ok ()) := by
  have accepted (m : Model) : (ofText s).accepts m = true ↔ Means s m := accepts_iff some named
  have read := ofText_of_named some named
  have valid := validate_of_named C (Text.lower (Text.trim s))
  rw [← read] at valid
  simp only [accepted] at valid
  refine ⟨accepted, ⟨?_, valid.1⟩, valid.2, ?_, ?_⟩
  · intro validates
    by_contra none
    rw [valid.2 none] at validates
    cases validates
  · intro α σ E t l dirs c catalog found
    rw [Loading.resolve_eq, catalog, Loading.answer_eq_ok] at found
    obtain ⟨known, chosen, -⟩ := Catalog.mem_candidates.1 (Loading.mem_of_firstLoaded found)
    exact ⟨List.mem_of_getElem? (Catalog.mem_entries.1 known), (accepted _).1 chosen⟩
  · intro m listed trimmed other
    have own : (ofText m.name).accepts m = true ↔ Text.IsLower m.name := by
      rw [accepts_iff (by rw [trimmed]; exact m.name_ne) (by rwa [trimmed]), Means, trimmed]
      exact and_iff_right (Text.sameButCase_iff.2 rfl)
    refine ⟨own, fun isLower => ?_⟩
    have called := ofText_of_named (s := m.name) (by rw [trimmed]; exact m.name_ne)
      (by rwa [trimmed])
    have validates := (validate_of_named C (Text.lower (Text.trim m.name))).1
    rw [← called] at validates
    exact validates ⟨m, listed, own.2 isLower⟩

/-- Blanks and case do not matter in a text that selects the second model of the shelves. -/
theorem selects_lower_names_on_shelves :
    Text.trim " B\t" ≠ "" ∧ ¬ Text.SameButCase (Text.trim " B\t") autoText ∧
      Loading.shelfCatalog.validate (ofText " B\t") = .ok () ∧
      ∃ m ∈ Loading.shelfCatalog.models, m.name = "b" ∧ (ofText " B\t").accepts m = true := by
  have some : Text.trim " B\t" ≠ "" := by decide
  have named : ¬ Text.SameButCase (Text.trim " B\t") autoText := by decide
  obtain ⟨accepted, valid, -⟩ := selects_lower_names Loading.shelfCatalog " B\t" some named
  obtain ⟨m, listed, called⟩ : ∃ m ∈ Loading.shelfCatalog.models, m.name = "b" :=
    ⟨Loading.shelfCatalog.models[1], by decide, rfl⟩
  have means : Means " B\t" m := by
    rw [Means, called]
    exact ⟨by decide, Text.lower_eq_self_iff.1 (by decide)⟩
  exact ⟨some, named, valid.2 ⟨m, listed, means⟩, m, listed, called, (accepted m).2 means⟩

/-- A model whose name is in upper case. -/
def upperModel : Model :=
  ⟨"MT32", .ofFull ⟨"pcm_mt32", "p.bin"⟩, .ofFull ⟨"ctrl_mt32", "c.bin"⟩, by decide, by decide,
    by decide⟩

/-- **A model with an upper-case letter is not selected by its own name**, and the catalog that has
it refuses that name as unknown. -/
theorem upper_never_selected :
    let C : Catalog := ⟨[upperModel]⟩
    let s := "MT32"
    Text.trim s ≠ "" ∧ ¬ Text.SameButCase (Text.trim s) autoText ∧
      (∃ m ∈ C.models, Text.SameButCase m.name (Text.trim s) ∧ (ofText s).accepts m = false) ∧
      C.validate (ofText s) = .error (.unknownModel "mt32") := by
  intro C s
  refine ⟨by decide, by decide, ⟨upperModel, List.mem_cons_self, by decide, by decide⟩, by decide⟩

end ModelSelector

end SynthBridge
