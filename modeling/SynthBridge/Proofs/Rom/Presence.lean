import SynthBridge.Rom.Presence

/-!
# The memory of what is present

What an inventory remembers is what the files give, as long as they stay as they are
(`Inventory.Truthful`). A check keeps this (`Inventory.Truthful.check`), answers as if nothing were
remembered (`Inventory.Truthful.check_fst`), and is not made twice (`Inventory.check_check`).
Truthful or not, the memory gives the same answers after a check as before
(`Inventory.check_fst_check`).
-/

namespace SynthBridge

/-! ## Entries -/

theorem Catalog.mem_entries {c : Catalog} {e : Catalog.Entry} :
    e ∈ c.entries ↔ c.models[e.index]? = some e.model := by
  obtain ⟨index, m⟩ := e
  simp only [Catalog.entries, List.mem_map, Prod.exists, List.mem_zipIdx_iff_getElem?,
    Catalog.Entry.mk.injEq]
  constructor
  · rintro ⟨m', index', found, rfl, rfl⟩
    exact found
  · intro found
    exact ⟨m, index, found, rfl, rfl⟩

theorem Catalog.map_model_entries (C : Catalog) : C.entries.map Catalog.Entry.model = C.models := by
  simp only [Catalog.entries, List.map_map, Function.comp_def]
  exact List.zipIdx_map_fst 0 C.models

/-- Entries with one place are one. -/
theorem Catalog.eq_of_index_eq {c : Catalog} {e e' : Catalog.Entry} (h : e ∈ c.entries)
    (h' : e' ∈ c.entries) (same : e.index = e'.index) : e = e' := by
  have model : some e.model = some e'.model := by
    rw [← Catalog.mem_entries.1 h, ← Catalog.mem_entries.1 h', same]
  obtain ⟨index, m⟩ := e
  obtain ⟨index', m'⟩ := e'
  obtain rfl : index = index' := same
  obtain rfl : m = m' := Option.some.inj model
  rfl

/-! ## Files that can serve -/

/-- **A ROM is present** if its file exists and is identified as a ROM, and if it is reported under
just that id where the id names a version. -/
theorem Presence.romPresent_iff {identify : Identifier} {t : FileTree} {dir : String}
    {rom : RomFile} :
    (Presence.romPresent identify t dir rom).1 = true ↔ t.has (rom.pathIn dir) = true ∧
      ∃ info, identify t (rom.pathIn dir) = some info ∧
        (rom.isVersioned = true → info.reports rom.id = true) := by
  unfold Presence.romPresent
  by_cases there : t.has (rom.pathIn dir) = true
  · cases found : identify t (rom.pathIn dir) with
    | none => simp [there, found, Presence.serves]
    | some info => cases versioned : rom.isVersioned <;>
        simp [there, found, Presence.serves, versioned]
  · simp [there]

/-- **A role is present** if its full file is, or both of its halves. -/
theorem Presence.rolePresent_fst {identify : Identifier} {t : FileTree} {dir : String}
    {set : RomSet} :
    (Presence.rolePresent identify t dir set).1 =
      (set.full.any (fun rom => (Presence.romPresent identify t dir rom).1) ||
        set.halves.any fun (a, b) => (Presence.romPresent identify t dir a).1 &&
          (Presence.romPresent identify t dir b).1) := by
  unfold Presence.rolePresent
  cases set.full with
  | none =>
    cases set.halves with
    | none => rfl
    | some halves =>
      simp only [Bool.false_eq_true, if_false, Option.any_none, Option.any_some, Bool.false_or]
      split <;> simp_all
  | some rom =>
    cases set.halves with
    | none =>
      simp only [Option.any_some, Option.any_none, Bool.or_false]
      split <;> simp_all
    | some halves =>
      simp only [Option.any_some]
      split
      · simp_all
      · split <;> simp_all

/-- What is present depends on how the files at hand are identified. -/
theorem Presence.modelPresent_congr {identify identify' : Identifier} {t : FileTree}
    (same : identify t = identify' t) :
    Presence.modelPresent identify t = Presence.modelPresent identify' t := by
  change Presence.modelPresent (fun _ => identify t) t = _
  rw [same]
  rfl

namespace Inventory

variable {identify identify' : Identifier} {t t' : FileTree} {inv : Inventory}
  {e e' : Catalog.Entry} {dir : String}

/-! ## What is remembered -/

/-- Every remembered answer is the one that the files give. -/
def Truthful (inv : Inventory) (identify : Identifier) (t : FileTree) : Prop :=
  ∀ e ∈ inv.catalog.entries, ∀ dir present, inv.known.lookup (e.index, dir) = some present →
    present = (Presence.modelPresent identify t dir e.model).1

theorem truthful_of_known_eq_nil (fresh : inv.known = []) : inv.Truthful identify t := by
  intro e _ dir present found
  simp [fresh] at found

theorem check_congr (same : identify t = identify' t) :
    inv.check identify t = inv.check identify' t := by
  funext e dir
  unfold check
  rw [Presence.modelPresent_congr same]

theorem Truthful.congr (h : inv.Truthful identify t) (same : identify' t = identify t) :
    inv.Truthful identify' t := by
  intro e known dir present found
  rw [Presence.modelPresent_congr same]
  exact h e known dir present found

@[simp]
theorem catalog_check :
    (inv.check identify t e dir).2.2.catalog = inv.catalog := by
  unfold check
  split <;> rfl

theorem lookup_check :
    (inv.check identify t e dir).2.2.known.lookup (e.index, dir) =
      some (inv.check identify t e dir).1 := by
  unfold check
  split
  · assumption
  · simp

theorem check_of_lookup {present : Bool}
    (known : inv.known.lookup (e.index, dir) = some present) :
    inv.check identify t e dir = (present, [], inv) := by
  unfold check
  rw [known]

/-- What was checked once is not looked at again, whoever identifies files. -/
theorem check_check :
    (inv.check identify t e dir).2.2.check identify' t' e dir =
      ((inv.check identify t e dir).1, [], (inv.check identify t e dir).2.2) :=
  check_of_lookup lookup_check

theorem check_fst_eq :
    (inv.check identify t e dir).1 =
      (inv.known.lookup (e.index, dir)).getD (Presence.modelPresent identify t dir e.model).1 := by
  unfold check
  cases inv.known.lookup (e.index, dir) <;> rfl

/-- **A check changes no answer**, whatever is remembered. -/
theorem check_fst_check (known : e ∈ inv.catalog.entries) (known' : e' ∈ inv.catalog.entries)
    (dir dir' : String) :
    ((inv.check identify t e dir).2.2.check identify t e' dir').1 =
      (inv.check identify t e' dir').1 := by
  by_cases here : (e'.index, dir') = (e.index, dir)
  · obtain ⟨same, rfl⟩ := Prod.mk.inj here
    obtain rfl := Catalog.eq_of_index_eq known' known same
    rw [check_check]
  · have other : ((e'.index, dir') == (e.index, dir)) = false := beq_eq_false_iff_ne.2 here
    have kept : (inv.check identify t e dir).2.2.known.lookup (e'.index, dir') =
        inv.known.lookup (e'.index, dir') := by
      unfold check
      split
      · rfl
      · simp only [List.lookup_cons, other]
    rw [check_fst_eq, check_fst_eq, kept]

/-- **A memory that is truthful changes no answer.** -/
theorem Truthful.check_fst (h : inv.Truthful identify t) (known : e ∈ inv.catalog.entries) :
    (inv.check identify t e dir).1 = (Presence.modelPresent identify t dir e.model).1 := by
  rw [check_fst_eq]
  cases found : inv.known.lookup (e.index, dir) with
  | none => rfl
  | some present => exact h e known dir present found

/-- **Checking keeps the memory truthful.** -/
theorem Truthful.check (h : inv.Truthful identify t) (known : e ∈ inv.catalog.entries)
    (dir : String) : (inv.check identify t e dir).2.2.Truthful identify t := by
  intro e' known' dir' present found
  rw [catalog_check] at known'
  rw [← h.check_fst known', ← check_fst_check known known' dir dir', check_of_lookup found]

end Inventory

end SynthBridge
