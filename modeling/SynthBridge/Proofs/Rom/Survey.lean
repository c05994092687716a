import SynthBridge.Proofs.Rom.Presence
import SynthBridge.Rom.Listing

/-!
# What is found in directories

Which models a directory is said to hold does not change while directories are looked through
(`Inventory.modelsIn_fst_checkAll`), and so neither do the rows of a matrix (`Listing.rows_fst`).
Where the memory is truthful both are a matter of the files (`Catalog.presentIn`, `Listing.rowsOf`):
`Inventory.Truthful.modelsIn`, `Listing.rows_of_truthful`.

All that looking through directories does to the memory is to check one model after another in one
directory after another: `Inventory.checkAll` is just that. The files of a model in a directory are
looked at by the first of several checks only (`Inventory.looks_checkAll`).
-/

namespace SynthBridge

variable {identify identify' : Identifier} {t : FileTree} {inv : Inventory} {C : Catalog}
  {c : Catalog.Candidate} {cs : List Catalog.Candidate} {dir : String}

/-! ## Checking many -/

/-- A model is known by its place in the catalog. -/
def Catalog.Candidate.key (c : Catalog.Candidate) : Nat × String := (c.entry.index, c.dir)

/-- The files that are looked at where nothing is remembered. -/
def Presence.looksAt (identify : Identifier) (t : FileTree) (c : Catalog.Candidate) : List Look :=
  (Presence.modelPresent identify t c.dir c.entry.model).2

namespace Inventory

/-- Checks models in directories, one after the other. -/
def checkAll (inv : Inventory) (identify : Identifier) (t : FileTree) :
    List Catalog.Candidate → List Look × Inventory
  | [] => ([], inv)
  | c :: rest =>
    let (_, looks, inv) := inv.check identify t c.entry c.dir
    let (looks', inv) := inv.checkAll identify t rest
    (looks ++ looks', inv)

@[simp]
theorem checkAll_nil : inv.checkAll identify t [] = ([], inv) := rfl

theorem checkAll_cons :
    inv.checkAll identify t (c :: cs) =
      ((inv.check identify t c.entry c.dir).2.1 ++
          ((inv.check identify t c.entry c.dir).2.2.checkAll identify t cs).1,
        ((inv.check identify t c.entry c.dir).2.2.checkAll identify t cs).2) := rfl

theorem checkAll_append (cs cs' : List Catalog.Candidate) :
    inv.checkAll identify t (cs ++ cs') =
      ((inv.checkAll identify t cs).1 ++ ((inv.checkAll identify t cs).2.checkAll identify t cs').1,
        ((inv.checkAll identify t cs).2.checkAll identify t cs').2) := by
  induction cs generalizing inv with
  | nil => rfl
  | cons c rest ih =>
    rw [List.cons_append, checkAll_cons, ih, checkAll_cons, List.append_assoc]

@[simp]
theorem catalog_checkAll : (inv.checkAll identify t cs).2.catalog = inv.catalog := by
  induction cs generalizing inv with
  | nil => rfl
  | cons c rest ih => rw [checkAll_cons, ih, catalog_check]

theorem checkAll_congr (same : identify' t = identify t) :
    inv.checkAll identify' t cs = inv.checkAll identify t cs := by
  induction cs generalizing inv with
  | nil => rfl
  | cons c rest ih => rw [checkAll_cons, checkAll_cons, check_congr same, ih]

theorem Truthful.checkAll (h : inv.Truthful identify t)
    (known : ∀ c ∈ cs, c.entry ∈ inv.catalog.entries) :
    (inv.checkAll identify t cs).2.Truthful identify t := by
  induction cs generalizing inv with
  | nil => exact h
  | cons c rest ih =>
    obtain ⟨here, others⟩ := List.forall_mem_cons.1 known
    rw [checkAll_cons]
    apply ih (h.check here c.dir)
    intro c' listed
    rw [catalog_check]
    exact others c' listed

/-! ## Looking once -/

/-- Whether a pair is remembered. -/
def knows (inv : Inventory) (c : Catalog.Candidate) : Bool := (inv.known.lookup c.key).isSome

theorem check_of_knows (known : inv.knows c = true) :
    (inv.check identify t c.entry c.dir).2 = ([], inv) := by
  obtain ⟨present, found⟩ := Option.isSome_iff_exists.1 known
  rw [check_of_lookup found]

theorem check_of_not_knows (unknown : inv.knows c = false) (identify : Identifier)
    (t : FileTree) :
    (inv.check identify t c.entry c.dir).2.1 = Presence.looksAt identify t c ∧
      ∀ c', (inv.check identify t c.entry c.dir).2.2.knows c' =
        (c'.key == c.key || inv.knows c') := by
  have missing : inv.known.lookup (c.entry.index, c.dir) = none := by
    simpa [knows, Catalog.Candidate.key] using unknown
  unfold check
  rw [missing]
  refine ⟨rfl, ?_⟩
  intro c'
  simp only [knows, List.lookup_cons, Catalog.Candidate.key]
  split <;> simp_all

/-- **The files of a model in a directory are looked at once**: by the first check, unless an answer
was remembered before. -/
theorem looks_checkAll (inv : Inventory) (identify : Identifier) (t : FileTree)
    (cs : List Catalog.Candidate) :
    (inv.checkAll identify t cs).1 =
      ((cs.filter fun c => !inv.knows c).eraseDupsBy fun c c' => c.key == c'.key).flatMap
        (Presence.looksAt identify t) := by
  induction cs generalizing inv with
  | nil => rfl
  | cons c rest ih =>
    rw [checkAll_cons, ih]
    cases known : inv.knows c with
    | true =>
      rw [check_of_knows known, List.nil_append, List.filter_cons_of_neg (by simp [known])]
    | false =>
      obtain ⟨looks, learned⟩ := check_of_not_knows known identify t
      rw [List.filter_cons_of_pos (by simp [known]), List.eraseDupsBy_cons, List.flatMap_cons,
        looks, List.filter_filter]
      simp only [learned, Bool.not_or, Bool.decide_eq_false]

end Inventory

/-! ## Directories -/

/-- The models that are present in a directory, in the catalog's order. -/
def Catalog.presentIn (C : Catalog) (identify : Identifier) (t : FileTree) (dir : String) :
    List Catalog.Entry :=
  C.entries.filter fun e => (Presence.modelPresent identify t dir e.model).1

namespace Inventory

theorem presentAmong_snd (inv : Inventory) (es : List Catalog.Entry) :
    (inv.presentAmong identify t dir es).2 = inv.checkAll identify t (es.map (⟨·, dir⟩)) := by
  induction es generalizing inv with
  | nil => rfl
  | cons e rest ih =>
    rw [List.map_cons, checkAll_cons, ← ih]
    rfl

/-- **Many checks change no answer**, whatever is remembered. -/
theorem check_fst_checkAll (known : ∀ c ∈ cs, c.entry ∈ inv.catalog.entries) {e : Catalog.Entry}
    (here : e ∈ inv.catalog.entries) (dir : String) :
    ((inv.checkAll identify t cs).2.check identify t e dir).1 =
      (inv.check identify t e dir).1 := by
  induction cs generalizing inv with
  | nil => rfl
  | cons c rest ih =>
    obtain ⟨first, others⟩ := List.forall_mem_cons.1 known
    rw [checkAll_cons, ih (by simpa using others) (by simpa using here),
      check_fst_check first here]

theorem presentAmong_fst {es : List Catalog.Entry} (known : ∀ e ∈ es, e ∈ inv.catalog.entries) :
    (inv.presentAmong identify t dir es).1 = es.filter fun e => (inv.check identify t e dir).1 := by
  induction es generalizing inv with
  | nil => rfl
  | cons e rest ih =>
    obtain ⟨here, others⟩ := List.forall_mem_cons.1 known
    have after : ((inv.check identify t e dir).2.2.presentAmong identify t dir rest).1 = _ :=
      ih (by simpa using others)
    have same : (rest.filter fun e' =>
        ((inv.check identify t e dir).2.2.check identify t e' dir).1) =
          rest.filter fun e' => (inv.check identify t e' dir).1 :=
      List.filter_congr fun e' listed => check_fst_check here (others e' listed) dir dir
    simp only [Inventory.presentAmong, after, same, List.filter_cons]

theorem modelsIn_snd (inv : Inventory) (dir : String) :
    (inv.modelsIn identify t dir).2 =
      inv.checkAll identify t (inv.catalog.entries.map (⟨·, dir⟩)) :=
  presentAmong_snd inv _

theorem entry_mem_of_mem_map {dir : String} (listed : c ∈ inv.catalog.entries.map (⟨·, dir⟩)) :
    c.entry ∈ inv.catalog.entries := by
  obtain ⟨e, known, rfl⟩ := List.mem_map.1 listed
  exact known

/-- The models that a directory is said to hold, whatever is remembered. -/
theorem modelsIn_fst (inv : Inventory) (dir : String) :
    (inv.modelsIn identify t dir).1 =
      inv.catalog.entries.filter fun e => (inv.check identify t e dir).1 :=
  presentAmong_fst fun _ known => known

theorem modelsIn_fst_checkAll (known : ∀ c ∈ cs, c.entry ∈ inv.catalog.entries) (dir : String) :
    ((inv.checkAll identify t cs).2.modelsIn identify t dir).1 =
      (inv.modelsIn identify t dir).1 := by
  rw [modelsIn_fst, modelsIn_fst, catalog_checkAll]
  exact List.filter_congr fun e here => check_fst_checkAll known here dir

theorem Truthful.modelsIn (h : inv.Truthful identify t) (dir : String) :
    (inv.modelsIn identify t dir).1 = inv.catalog.presentIn identify t dir ∧
      (inv.modelsIn identify t dir).2.2.Truthful identify t ∧
      (inv.modelsIn identify t dir).2.2.catalog = inv.catalog := by
  rw [modelsIn_snd, modelsIn_fst]
  refine ⟨List.filter_congr fun e known => h.check_fst known, ?_, catalog_checkAll⟩
  exact h.checkAll fun c listed => entry_mem_of_mem_map listed

end Inventory

/-! ## Matrices -/

namespace Listing

/-- The rows for some directories, given what they hold: one for each that holds a model, in the
order in which they come first. -/
def rowsOf (found : String → List Model) (dirs : List String) : List Row :=
  (dirs.filter fun dir => !(found dir).isEmpty).eraseDups.map fun dir => ⟨dir, found dir⟩

/-- The models that a directory holds. -/
def holdings (C : Catalog) (identify : Identifier) (t : FileTree) (dir : String) : List Model :=
  (C.presentIn identify t dir).map Catalog.Entry.model

theorem holdings_eq (C : Catalog) (identify : Identifier) (t : FileTree) (dir : String) :
    holdings C identify t dir =
      C.models.filter fun m => (Presence.modelPresent identify t dir m).1 := by
  rw [holdings, Catalog.presentIn, ← Catalog.map_model_entries C, List.filter_map]
  rfl

theorem mem_rowsOf {found : String → List Model} {dirs : List String} {row : Row} :
    row ∈ rowsOf found dirs ↔ ∃ dir ∈ dirs, found dir ≠ [] ∧ row = ⟨dir, found dir⟩ := by
  simp only [rowsOf, List.mem_map, List.mem_eraseDups, List.mem_filter, Bool.not_eq_true',
    List.isEmpty_eq_false_iff, and_assoc, eq_comm (a := row)]

theorem rowsOf_cons_of_isEmpty {found : String → List Model} {dirs : List String}
    (none : (found dir).isEmpty = true) : rowsOf found (dir :: dirs) = rowsOf found dirs := by
  rw [rowsOf, List.filter_cons_of_neg (by simp [none])]
  rfl

theorem rowsOf_cons {found : String → List Model} {dirs : List String}
    (some : (found dir).isEmpty = false) :
    rowsOf found (dir :: dirs) =
      ⟨dir, found dir⟩ :: rowsOf found (dirs.filter fun other => !other == dir) := by
  rw [rowsOf, List.filter_cons_of_pos (by simp [some]), List.eraseDups_cons, List.map_cons,
    List.filter_filter]
  simp only [rowsOf, List.filter_filter, Bool.and_comm]

/-- **The rows of a matrix** hold what each directory is said to hold at first, whatever is
remembered. -/
theorem rows_fst (inv : Inventory) (dirs : List String) (done : List Row) :
    (rows inv identify t dirs done).1 =
      done ++ rowsOf (fun dir => (inv.modelsIn identify t dir).1.map Catalog.Entry.model)
        (dirs.filter fun dir => !done.any fun row => row.dir == dir) := by
  induction dirs generalizing inv done with
  | nil => simp [rows, rowsOf]
  | cons dir rest ih =>
    cases listed : done.any fun row => row.dir == dir with
    | true =>
      rw [List.filter_cons_of_neg (by simp [listed]), ← ih]
      simp only [rows, listed, if_true]
    | false =>
      have later : ∀ other, ((inv.modelsIn identify t dir).2.2.modelsIn identify t other).1 =
          (inv.modelsIn identify t other).1 := by
        intro other
        rw [Inventory.modelsIn_snd]
        exact Inventory.modelsIn_fst_checkAll
          (fun c listed => Inventory.entry_mem_of_mem_map listed) other
      rw [List.filter_cons_of_pos (by simp [listed])]
      simp only [rows, listed, Bool.false_eq_true, if_false, ih, later]
      cases none : (inv.modelsIn identify t dir).1.isEmpty with
      | true =>
        rw [if_pos rfl, rowsOf_cons_of_isEmpty (by simp [none])]
      | false =>
        have swap : ∀ other, (dir == other) = (other == dir) := fun other => BEq.comm
        rw [if_neg Bool.false_ne_true, rowsOf_cons (by simp [none]), List.append_assoc,
          List.filter_filter]
        simp [List.any_append, Bool.and_comm, swap]

/-- **The rows of a matrix are a matter of the files** where what is remembered is true. -/
theorem rows_of_truthful (h : inv.Truthful identify t) (dirs : List String) (done : List Row) :
    (rows inv identify t dirs done).1 =
      done ++ rowsOf (holdings inv.catalog identify t)
        (dirs.filter fun dir => !done.any fun row => row.dir == dir) := by
  have held : (fun dir => (inv.modelsIn identify t dir).1.map Catalog.Entry.model) =
      holdings inv.catalog identify t := by
    funext dir
    rw [(h.modelsIn dir).1, holdings]
  rw [rows_fst, held]

/-- The checks that are made for the rows of some directories: none for one that has a row. -/
def checks (inv : Inventory) (identify : Identifier) (t : FileTree) :
    List String → List Row → List Catalog.Candidate
  | [], _ => []
  | dir :: rest, done =>
    if done.any fun row => row.dir == dir then checks inv identify t rest done
    else
      let (found, _, after) := inv.modelsIn identify t dir
      let done := if found.isEmpty then done else done ++ [⟨dir, found.map Catalog.Entry.model⟩]
      inv.catalog.entries.map (⟨·, dir⟩) ++ checks after identify t rest done

theorem rows_snd (inv : Inventory) (dirs : List String) (done : List Row) :
    (rows inv identify t dirs done).2 =
      inv.checkAll identify t (checks inv identify t dirs done) := by
  induction dirs generalizing inv done with
  | nil => rfl
  | cons dir rest ih =>
    unfold rows checks
    split
    · exact ih inv done
    · simp only [ih, Inventory.checkAll_append, ← Inventory.modelsIn_snd]

@[simp]
theorem catalog_rows (inv : Inventory) (dirs : List String) (done : List Row) :
    (rows inv identify t dirs done).2.2.catalog = inv.catalog := by
  rw [rows_snd, Inventory.catalog_checkAll]

theorem entry_mem_of_mem_checks {dirs : List String} {done : List Row}
    (listed : c ∈ checks inv identify t dirs done) : c.entry ∈ inv.catalog.entries := by
  induction dirs generalizing inv done with
  | nil => cases listed
  | cons dir rest ih =>
    unfold checks at listed
    split at listed
    · exact ih listed
    · rcases List.mem_append.1 listed with here | later
      · exact Inventory.entry_mem_of_mem_map here
      · have known : c.entry ∈ (inv.modelsIn identify t dir).2.2.catalog.entries := ih later
        rwa [Inventory.modelsIn_snd, Inventory.catalog_checkAll] at known

end Listing

end SynthBridge
