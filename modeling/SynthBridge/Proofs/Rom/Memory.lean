import SynthBridge.Proofs.Engine.Life
import SynthBridge.Proofs.Rom.Loading

/-!
# Loading with another memory

What an inventory remembers spares the engine some looks at files and changes nothing else, as long
as it is truthful and the engine identifies a file alike at all times: whatever is remembered, a
candidate is found or not, and loaded by the same calls (`Loading.Alike.tryCandidate`).
-/

namespace SynthBridge

variable {α σ : Type}

/-- How an engine identifies files depends on nothing that happens to it. -/
def Engine.Identifies (E : Engine α σ) (identify : Identifier) : Prop :=
  ∀ s, E.identify s = identify

/-! ## Looks at files -/

/-- Calls but those that only look at files. -/
def withoutLooks (calls : List (Call α)) : List (Call α) := calls.filter fun c => !c.isIdentify

@[simp]
theorem withoutLooks_append (calls more : List (Call α)) :
    withoutLooks (calls ++ more) = withoutLooks calls ++ withoutLooks more :=
  List.filter_append ..

@[simp]
theorem withoutLooks_looked (looks : List Look) :
    withoutLooks (Loading.looked looks : List (Call α)) = [] := by
  simp [withoutLooks, Loading.looked, Call.isIdentify]

namespace Loading

variable {E : Engine α σ} {t : FileTree} {identify : Identifier} {l l' : Loading α σ}
  {e : Catalog.Entry} {c : Catalog.Candidate} {dir : String} {set : RomSet} {kind : RomKind}

/-! ## The inventory -/

/-- Only checks have to do with what is remembered. -/
theorem inventory_loadRole (l : Loading α σ) :
    (l.loadRole E t dir set kind).2.inventory = l.inventory := by
  have whole : ∀ l : Loading α σ, (l.addWhole E t dir set).2.inventory = l.inventory := by
    intro l
    unfold addWhole
    split <;> rfl
  have joined : ∀ l : Loading α σ, (l.joinHalves E t dir set).2.inventory = l.inventory := by
    intro l
    unfold joinHalves
    split <;> rfl
  rw [loadRole_eq]
  simp only
  split
  · exact whole l
  · exact (joined _).trans (whole l)

/-- What is remembered when a candidate has been tried. -/
theorem inventory_tried (l : Loading α σ) :
    (l.tryCandidate E t c).2.inventory =
      (l.inventory.check (E.identify l.engine) t c.entry c.dir).2.2 := by
  rw [tryCandidate_eq]
  simp only
  split
  · rw [inventory_check]
  · split
    · simp only [inventory_loadRole, inventory_check]
    · simp only [inventory_loadRole, inventory_check]

/-- **Trying a candidate keeps the memory truthful.** -/
theorem truthful_tryCandidate (identifies : ∀ s, E.identify s t = identify t)
    (truthful : l.inventory.Truthful identify t) (known : c.entry ∈ l.inventory.catalog.entries) :
    (l.tryCandidate E t c).2.inventory.Truthful identify t := by
  rw [inventory_tried, Inventory.check_congr (identifies l.engine)]
  exact truthful.check known c.dir

/-! ## Two memories -/

/-- An engine has been asked for the same and has come to the same, but for looks at files. -/
structure Alike (l l' : Loading α σ) : Prop where
  engine : l'.engine = l.engine
  catalog : l'.inventory.catalog = l.inventory.catalog
  calls : withoutLooks l'.calls = withoutLooks l.calls
  log : l'.log = l.log

theorem Alike.check (h : l.Alike l') (E : Engine α σ) (t : FileTree) (e : Catalog.Entry)
    (dir : String) : (l.check E t e dir).2.Alike (l'.check E t e dir).2 := by
  refine ⟨h.engine, ?_, ?_, h.log⟩
  · rw [inventory_check, inventory_check, Inventory.catalog_check, Inventory.catalog_check,
    h.catalog]
  · simp only [Loading.check, withoutLooks_append, withoutLooks_looked, h.calls]

theorem Alike.addWhole (h : l.Alike l') (E : Engine α σ) (t : FileTree) (dir : String)
    (set : RomSet) :
    (l'.addWhole E t dir set).1 = (l.addWhole E t dir set).1 ∧
      (l.addWhole E t dir set).2.Alike (l'.addWhole E t dir set).2 := by
  unfold Loading.addWhole
  split
  · unfold add
    rw [h.engine]
    exact ⟨rfl, rfl, h.catalog, by simp only [withoutLooks_append, h.calls], h.log⟩
  · exact ⟨rfl, h⟩

theorem Alike.joinHalves (h : l.Alike l') (E : Engine α σ) (t : FileTree) (dir : String)
    (set : RomSet) :
    (l'.joinHalves E t dir set).1 = (l.joinHalves E t dir set).1 ∧
      (l.joinHalves E t dir set).2.Alike (l'.joinHalves E t dir set).2 := by
  unfold Loading.joinHalves
  split
  · unfold merge
    rw [h.engine]
    exact ⟨rfl, rfl, h.catalog, by simp only [withoutLooks_append, h.calls], h.log⟩
  · exact ⟨rfl, h⟩

theorem Alike.loadRole (h : l.Alike l') (E : Engine α σ) (t : FileTree) (dir : String)
    (set : RomSet) (kind : RomKind) :
    (l'.loadRole E t dir set kind).1 = (l.loadRole E t dir set kind).1 ∧
      (l.loadRole E t dir set kind).2.Alike (l'.loadRole E t dir set kind).2 := by
  obtain ⟨whole, afterWhole⟩ := h.addWhole E t dir set
  obtain ⟨joined, afterJoined⟩ := afterWhole.joinHalves E t dir set
  simp only [loadRole_eq, whole]
  split
  · exact ⟨rfl, afterWhole⟩
  · exact ⟨by rw [joined], afterJoined⟩

theorem Alike.check_fst (h : l.Alike l') (identifies : ∀ s, E.identify s t = identify t)
    (truthful : l.inventory.Truthful identify t) (truthful' : l'.inventory.Truthful identify t)
    (known : e ∈ l.inventory.catalog.entries) (dir : String) :
    (l'.check E t e dir).1 = (l.check E t e dir).1 := by
  have known' : e ∈ l'.inventory.catalog.entries := by
    rw [h.catalog]
    exact known
  rw [Loading.check_fst, Loading.check_fst, Inventory.check_congr (identifies l.engine),
    Inventory.check_congr (identifies l'.engine), truthful'.check_fst known',
    truthful.check_fst known]

theorem load_eq : l.load E t e dir =
    let checked := l.check E t e dir
    let pcm := checked.2.loadRole E t dir e.model.pcm .pcm
    let control := pcm.2.loadRole E t dir e.model.control .control
    if checked.1 then (pcm.1 && control.1, control.2) else (false, checked.2) := rfl

/-- What is remembered does not change what is loaded. -/
theorem Alike.load (h : l.Alike l') (identifies : ∀ s, E.identify s t = identify t)
    (truthful : l.inventory.Truthful identify t) (truthful' : l'.inventory.Truthful identify t)
    (known : e ∈ l.inventory.catalog.entries) (dir : String) :
    (l'.load E t e dir).1 = (l.load E t e dir).1 ∧
      (l.load E t e dir).2.Alike (l'.load E t e dir).2 := by
  have present := h.check_fst identifies truthful truthful' known dir
  have checked := h.check E t e dir
  obtain ⟨pcm, afterPcm⟩ := checked.loadRole E t dir e.model.pcm .pcm
  obtain ⟨control, afterControl⟩ := afterPcm.loadRole E t dir e.model.control .control
  simp only [load_eq, present, pcm, control]
  split
  · exact ⟨rfl, afterControl⟩
  · exact ⟨rfl, checked⟩

/-- **What is remembered does not change what becomes of a candidate.** -/
theorem Alike.tryCandidate (h : l.Alike l') (identifies : ∀ s, E.identify s t = identify t)
    (truthful : l.inventory.Truthful identify t) (truthful' : l'.inventory.Truthful identify t)
    (known : c.entry ∈ l.inventory.catalog.entries) :
    (l'.tryCandidate E t c).1 = (l.tryCandidate E t c).1 ∧
      (l.tryCandidate E t c).2.Alike (l'.tryCandidate E t c).2 := by
  have present := h.check_fst identifies truthful truthful' known c.dir
  have checked := h.check E t c.entry c.dir
  obtain ⟨pcm, afterPcm⟩ := checked.loadRole E t c.dir c.entry.model.pcm .pcm
  obtain ⟨control, afterControl⟩ := afterPcm.loadRole E t c.dir c.entry.model.control
    .control
  simp only [tryCandidate_eq, present, pcm, control]
  split
  · exact ⟨rfl, checked⟩
  · obtain ⟨engine, catalog, calls, log⟩ := afterControl
    split
    · exact ⟨rfl, engine, catalog, calls, by rw [log]⟩
    · refine ⟨rfl, by rw [engine], catalog, ?_, by rw [log]⟩
      simp only [withoutLooks_append, calls]

/-- **What is remembered does not change what a search finds**, nor what it asks of the engine. -/
theorem Alike.firstLoaded {cs : List Catalog.Candidate} (h : l.Alike l')
    (identifies : ∀ s, E.identify s t = identify t)
    (truthful : l.inventory.Truthful identify t) (truthful' : l'.inventory.Truthful identify t)
    (known : ∀ c ∈ cs, c.entry ∈ l.inventory.catalog.entries) :
    (l'.firstLoaded E t cs).1 = (l.firstLoaded E t cs).1 ∧
      (l.firstLoaded E t cs).2.Alike (l'.firstLoaded E t cs).2 := by
  induction cs generalizing l l' with
  | nil => exact ⟨rfl, h⟩
  | cons c rest ih =>
    obtain ⟨here, others⟩ := List.forall_mem_cons.1 known
    have here' : c.entry ∈ l'.inventory.catalog.entries := by
      rw [h.catalog]
      exact here
    obtain ⟨loaded, tried⟩ := h.tryCandidate identifies truthful truthful' here
    simp only [Loading.firstLoaded, loaded]
    split
    · exact ⟨rfl, tried⟩
    · apply ih tried (truthful_tryCandidate identifies truthful here)
        (truthful_tryCandidate identifies truthful' here')
      intro c' listed
      rw [inventory_tried, Inventory.catalog_check]
      exact others c' listed

end Loading

end SynthBridge
