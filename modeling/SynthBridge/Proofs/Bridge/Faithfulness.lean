import SynthBridge.Proofs.Bridge.Fittings
import SynthBridge.Proofs.Rom.Memory

/-!
# What a bridge remembers

A bridge remembers which models are present where, and it forgets nothing when a session is closed.
As long as the files stay as they are and all engines identify them alike, what it remembers is what
a new engine would find (`Bridge.Faithful`), whoever acts: openings and listings add to it in turn
(`Bridge.Faithful.step`).
-/

namespace SynthBridge

/-- Whatever is to be tried is in the catalog. -/
theorem Catalog.entry_mem_of_mem_candidates {catalog : Catalog} {selector : ModelSelector}
    {dirs : List String} {c : Catalog.Candidate} (mem : c ∈ catalog.candidates selector dirs) :
    c.entry ∈ catalog.entries := by
  simp only [Catalog.candidates, List.mem_flatMap, List.mem_filter, List.mem_map] at mem
  obtain ⟨e, ⟨known, -⟩, dir, -, rfl⟩ := mem
  exact known

namespace Bridge

variable {α σ : Type} {E : Engine α σ} {t : FileTree} {identify : Identifier}
  {catalog : Catalog} {b b' : Bridge α σ}

/-- Whatever a listing looks for is in the catalog. -/
theorem entry_mem_of_mem_surveyed {c : Catalog.Candidate} (mem : c ∈ b.surveyed) :
    c.entry ∈ b.inventory.catalog.entries := by
  simp only [surveyed, List.mem_flatMap, List.mem_map] at mem
  obtain ⟨dir, -, e, known, rfl⟩ := mem
  exact known

/-- The candidates that an opening has still to try. -/
def Opening.sought : Opening σ → List Catalog.Candidate
  | .resolve _ candidates => candidates
  | _ => []

def Controller.sought : Controller σ → List Catalog.Candidate
  | .opening _ stage => stage.sought
  | _ => []

/-- A bridge has the catalog that it was made with, whatever it looks for is in there, and what it
remembers of files is true. -/
structure Faithful (b : Bridge α σ) (catalog : Catalog) (identify : Identifier) (t : FileTree) :
    Prop where
  same : b.inventory.catalog = catalog
  truthful : b.inventory.Truthful identify t
  sought : ∀ c ∈ b.controller.sought, c.entry ∈ catalog.entries
  surveys : ∀ s ∈ b.surveys, ∀ c ∈ s.todo, c.entry ∈ catalog.entries

/-- Something is looked for, and what is found is remembered. -/
theorem Faithful.learns (h : b.Faithful catalog identify t)
    (same : b'.inventory.catalog = b.inventory.catalog)
    (truthful : b'.inventory.Truthful identify t)
    (sought : b'.controller.sought ⊆ b.controller.sought)
    (surveys : ∀ s' ∈ b'.surveys, ∃ s ∈ b.surveys, s'.todo ⊆ s.todo) :
    b'.Faithful catalog identify t := by
  refine ⟨same.trans h.same, truthful, fun c mem => h.sought c (sought mem), ?_⟩
  intro s' mem' c mem
  obtain ⟨s, known, less⟩ := surveys s' mem'
  exact h.surveys s known c (less mem)

/-- Whoever leaves the inventory alone and looks for nothing new leaves a bridge faithful. -/
theorem Faithful.of_same (h : b.Faithful catalog identify t)
    (inventory : b'.inventory = b.inventory)
    (surveys : b'.surveys = b.surveys) (sought : b'.controller.sought ⊆ b.controller.sought) :
    b'.Faithful catalog identify t := by
  refine h.learns (by rw [inventory]) (by rw [inventory]; exact h.truthful) sought fun s mem => ?_
  rw [surveys] at mem
  exact ⟨s, mem, List.Subset.refl _⟩

theorem Faithful.startClosing (h : b.Faithful catalog identify t) (next : Option UInt32) :
    (b.startClosing next).Faithful catalog identify t := by
  unfold Bridge.startClosing
  split
  · exact h.of_same rfl rfl (List.nil_subset _)
  · exact h.of_same rfl rfl (List.nil_subset _)
  · exact h.of_same rfl rfl (List.nil_subset _)

section Open

variable {rate : UInt32} {stage : Opening σ}

/-- A bridge that has tried a candidate has what its engine and its inventory have come to. -/
theorem tryCandidate_eq (b : Bridge α σ) (i : Instance σ) (c : Catalog.Candidate) :
    b.tryCandidate E t i c =
      let x := Loading.tryCandidate E t { engine := i.state, inventory := b.inventory } c
      (x.1, { i with state := x.2.engine },
        { (b.called i.number x.2.calls).logged x.2.log with inventory := x.2.inventory }) := by
  simp only [Bridge.tryCandidate]

theorem Faithful.stepOpening (h : b.Faithful catalog identify t)
    (identifies : E.Identifies identify)
    (here : b.controller = .opening rate stage) (m : Opening.Move E t b rate stage b') :
    b'.Faithful catalog identify t := by
  have sought := h.sought
  rw [here] at sought
  -- A candidate is checked, and the answer is remembered.
  have tried : ∀ (i : Instance σ), ∀ c ∈ stage.sought,
      (Loading.tryCandidate E t { engine := i.state, inventory := b.inventory }
        c).2.inventory.catalog = b.inventory.catalog ∧
      (Loading.tryCandidate E t { engine := i.state, inventory := b.inventory }
        c).2.inventory.Truthful identify t := by
    intro i c mem
    have known : c.entry ∈ b.inventory.catalog.entries := by
      rw [h.same]
      exact sought c mem
    refine ⟨?_, Loading.truthful_tryCandidate (fun s => congrFun (identifies s) t) h.truthful known⟩
    rw [Loading.inventory_tried, Inventory.catalog_check]
  cases m with
  | create =>
    refine ⟨h.same, h.truthful, fun c mem => ?_, h.surveys⟩
    rw [← h.same]
    exact Catalog.entry_mem_of_mem_candidates mem
  | @found i c rest loaded =>
    obtain ⟨same, truthful⟩ := tried i c List.mem_cons_self
    rw [tryCandidate_eq]
    exact h.learns same truthful (List.nil_subset _) fun s mem => ⟨s, mem, List.Subset.refl _⟩
  | @passBy i c rest failed =>
    obtain ⟨same, truthful⟩ := tried i c List.mem_cons_self
    rw [tryCandidate_eq]
    refine h.learns same truthful ?_ fun s mem => ⟨s, mem, List.Subset.refl _⟩
    rw [here]
    exact List.subset_cons_self c rest
  | withdrawEngine =>
    obtain ⟨calls, same⟩ := closeEngine_eq b
    rw [same]
    exact h.of_same rfl rfl (List.nil_subset _)
  | _ => exact h.of_same rfl rfl (List.nil_subset _)

end Open

/-- A listing remembers what it finds. -/
theorem Faithful.stepList {place : Nat} (h : b.Faithful catalog identify t)
    (identifies : E.Identifies identify) (step : b.stepList E t place = some b') :
    b'.Faithful catalog identify t := by
  simp only [Bridge.stepList, Option.bind_eq_some_iff] at step
  obtain ⟨s, here, step⟩ := step
  have mem : s ∈ b.surveys := List.mem_of_getElem? here
  have kept : ∀ s', s'.todo ⊆ s.todo → ∀ x ∈ b.surveys.set place s', ∃ y ∈ b.surveys,
      x.todo ⊆ y.todo := by
    intro s' less x new
    rcases List.mem_or_eq_of_mem_set new with old | rfl
    · exact ⟨x, old, List.Subset.refl _⟩
    · exact ⟨s, mem, less⟩
  split at step
  · split at step
    · obtain ⟨rfl⟩ := step
      exact h.learns rfl h.truthful (List.Subset.refl _) (kept _ (List.Subset.refl _))
    · cases step
  · obtain ⟨rfl⟩ := step
    exact h.learns rfl h.truthful (List.Subset.refl _) fun x new =>
      ⟨x, List.mem_of_mem_eraseIdx new, List.Subset.refl _⟩
  · rename_i c rest _ todo
    obtain ⟨rfl⟩ := step
    have known : c.entry ∈ b.inventory.catalog.entries := by
      rw [h.same]
      apply h.surveys s mem
      rw [todo]
      exact List.mem_cons_self
    have truthful : (b.inventory.check (E.identify s.engine.state) t c.entry c.dir).2.2.Truthful
        identify t := by
      rw [identifies]
      exact h.truthful.check known c.dir
    refine h.learns Inventory.catalog_check truthful (List.Subset.refl _) (kept _ ?_)
    rw [todo]
    exact List.subset_cons_self c rest

variable [Amplitude α]

theorem faithful_new (setup : Setup) (catalog : Catalog) :
    (Bridge.new setup catalog : Bridge α σ).Faithful catalog identify t :=
  ⟨rfl, Inventory.truthful_of_known_eq_nil rfl, List.forall_mem_nil _, List.forall_mem_nil _⟩

theorem Faithful.stepClosing {s : Session} {next : Option UInt32} {stage : Closing}
    (h : b.Faithful catalog identify t) (step : b.stepClosing s next stage = some b') :
    b'.Faithful catalog identify t := by
  cases move_of_stepClosing step with
  | closeEngine =>
    obtain ⟨calls, same⟩ := closeEngine_eq b
    rw [same]
    exact h.of_same rfl rfl (List.nil_subset _)
  | _ => exact h.of_same rfl rfl (List.nil_subset _)

theorem Faithful.aside {label : Label α} (h : b.Faithful catalog identify t)
    (identifies : E.Identifies identify) (aside : label.IsAside)
    (step : b.step E t label = some b') : b'.Faithful catalog identify t := by
  cases label with
  | startList =>
    obtain ⟨rfl⟩ := step
    refine ⟨h.same, h.truthful, h.sought, fun s mem c todo => ?_⟩
    rcases List.mem_append.1 mem with old | new
    · exact h.surveys s old c todo
    · obtain rfl := List.mem_singleton.1 new
      rw [← h.same]
      exact entry_mem_of_mem_surveyed todo
  | list place => exact h.stepList identifies step
  | setLevels place =>
    simp only [Bridge.step, setLevels, Option.map_eq_some_iff] at step
    obtain ⟨levels, -, rfl⟩ := step
    exact h.of_same rfl rfl (List.Subset.refl _)
  | setGain left right =>
    obtain ⟨rfl⟩ := step
    unfold Bridge.setGain
    simp only
    split
    · exact h.of_same rfl rfl (List.Subset.refl _)
    · exact h.of_same rfl rfl (List.Subset.refl _)
  | message bytes =>
    obtain ⟨rfl⟩ := step
    unfold Bridge.message Bridge.submit
    split
    · exact h.of_same rfl rfl (List.Subset.refl _)
    · exact h.of_same rfl rfl (List.Subset.refl _)
  | sysex bytes =>
    obtain ⟨rfl⟩ := step
    unfold Bridge.sysex Bridge.submit
    split
    · exact h.of_same rfl rfl (List.Subset.refl _)
    · exact h.of_same rfl rfl (List.Subset.refl _)
  | _ => cases aside

/-- **Every step leaves what a bridge remembers true**, while the files stay as they are. -/
theorem Faithful.step {label : Label α} (h : b.Faithful catalog identify t)
    (identifies : E.Identifies identify) (m : Bridge.Move E t b label b') :
    b'.Faithful catalog identify t := by
  cases m with
  | startOpen idle => exact h.startClosing _
  | startClose idle => exact h.startClosing _
  | closing here step => exact h.stepClosing step
  | opening here step => exact h.stepOpening identifies here (move_of_stepOpening step)
  | refuseThread here =>
    exact h.stepOpening identifies here (Opening.Move.refuseThread (E := E) (t := t))
  | render here present move => exact h.of_same rfl rfl (List.Subset.refl _)
  | startPull here free => exact h.of_same rfl rfl (List.Subset.refl _)
  | pull here present move => exact h.of_same rfl rfl (List.Subset.refl _)
  | aside aside step => exact h.aside identifies aside step

end Bridge

end SynthBridge
