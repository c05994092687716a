import Mathlib.Data.List.Find
import Mathlib.Data.List.Nodup
import SynthBridge.Command.Run
import SynthBridge.Proofs.Rom.Memory
import SynthBridge.Proofs.Rom.Resolve
import SynthBridge.Proofs.Rom.Sheet

/-!
# Which model from where

There are three ways to learn which model a selector comes to, and from which directory: the command
goes through the candidates until one is present, a search loads the first that it can, and a
listing highlights a model and the first row that holds it. If no two models of the catalog have one
name, and the engine loads what is present, they all come to the same (`Catalog.choices_agree`).
-/

namespace SynthBridge

variable {α σ : Type}

/-! ## The choice -/

namespace Catalog

/-- The first model that a selector accepts and that is in any of the directories, together with the
first directory that it is in. -/
def choice (C : Catalog) (selector : ModelSelector) (dirs : List String)
    (here : String → Model → Bool) : Option (Model × String) :=
  (C.models.filter selector.accepts).findSome? fun m =>
    (dirs.find? fun dir => here dir m).map fun dir => (m, dir)

/-- The first candidate that is present. -/
theorem find?_candidates_eq_choice (C : Catalog) (selector : ModelSelector) (dirs : List String)
    (here : String → Model → Bool) :
    ((C.candidates selector dirs).find? fun c => here c.dir c.entry.model).map Candidate.pair =
      C.choice selector dirs here := by
  have pairs : ((C.candidates selector dirs).find? fun c => here c.dir c.entry.model).map
      Candidate.pair =
      ((C.candidates selector dirs).map Candidate.pair).find? fun p => here p.2 p.1 := by
    rw [List.find?_map]
    rfl
  rw [pairs, map_pair_candidates, List.find?_flatMap]
  simp only [choice, List.find?_map, Function.comp_def]

/-- The choice in two steps: first the model, then the directory. -/
theorem choice_eq_bind (C : Catalog) (selector : ModelSelector) (dirs : List String)
    (here : String → Model → Bool) :
    C.choice selector dirs here =
      (C.models.find? fun m => selector.accepts m && dirs.any fun dir => here dir m).bind fun m =>
        (dirs.find? fun dir => here dir m).map fun dir => (m, dir) := by
  unfold choice
  induction C.models with
  | nil => rfl
  | cons m rest ih =>
    rw [List.filter_cons, List.find?_cons]
    cases accepted : selector.accepts m with
    | false => simpa using ih
    | true =>
      rw [if_pos rfl, List.findSome?_cons, Bool.true_and]
      cases found : dirs.find? fun dir => here dir m with
      | none =>
        have nowhere : (dirs.any fun dir => here dir m) = false := by
          simpa [List.any_eq_false] using found
        simpa [nowhere] using ih
      | some dir =>
        have holds : here dir m = true := List.find?_some (p := fun dir => here dir m) found
        have somewhere : (dirs.any fun dir => here dir m) = true :=
          List.any_eq_true.2 ⟨dir, List.mem_of_find?_eq_some found, holds⟩
        simp [somewhere, found]

end Catalog

/-! ## The command -/

/-- **The command's search** finds the first candidate that is present. -/
theorem Command.firstPresent_of_truthful {identify : Identifier} {t : FileTree} {inv : Inventory}
    (truthful : inv.Truthful identify t) {cs : List Catalog.Candidate}
    (known : ∀ c ∈ cs, c.entry ∈ inv.catalog.entries) :
    Command.firstPresent inv identify t cs =
      cs.find? fun c => (Presence.modelPresent identify t c.dir c.entry.model).1 := by
  induction cs generalizing inv with
  | nil => rfl
  | cons c rest ih =>
    obtain ⟨here, others⟩ := List.forall_mem_cons.1 known
    have after := ih (truthful.check here c.dir) (by simpa using others)
    simp only [Command.firstPresent, List.find?_cons, truthful.check_fst here]
    cases (Presence.modelPresent identify t c.dir c.entry.model).1 with
    | true => rfl
    | false => exact after

/-! ## The search -/

namespace Loading

variable {E : Engine α σ} {t : FileTree} {identify : Identifier} {l : Loading α σ}
  {c : Catalog.Candidate} {cs : List Catalog.Candidate}

theorem alike_check (l : Loading α σ) (E : Engine α σ) (t : FileTree) (e : Catalog.Entry)
    (dir : String) : l.Alike (l.check E t e dir).2 where
  engine := rfl
  catalog := by rw [inventory_check, Inventory.catalog_check]
  calls := by simp [check]
  log := rfl

theorem tryCandidate_of_absent (absent : (l.check E t c.entry c.dir).1 = false) :
    l.tryCandidate E t c = (false, (l.check E t c.entry c.dir).2) := by
  simp only [tryCandidate, absent, Bool.not_false, if_true]

theorem tryCandidate_fst_of_present (present : (l.check E t c.entry c.dir).1 = true) :
    (l.tryCandidate E t c).1 =
      ((l.check E t c.entry c.dir).2.load E t c.entry c.dir).1 := by
  simp only [tryCandidate, present, Bool.not_true, Bool.false_eq_true, if_false]
  split <;> simp_all

/-- **A search finds the first candidate that is present**, if the engine as it is loads each of
them that is. -/
theorem firstLoaded_of_loads (identifies : ∀ s, E.identify s t = identify t)
    (truthful : l.inventory.Truthful identify t)
    (known : ∀ c ∈ cs, c.entry ∈ l.inventory.catalog.entries)
    (loads : ∀ c ∈ cs, (Presence.modelPresent identify t c.dir c.entry.model).1 = true →
      (l.load E t c.entry c.dir).1 = true) :
    (l.firstLoaded E t cs).1 =
      cs.find? fun c => (Presence.modelPresent identify t c.dir c.entry.model).1 := by
  induction cs generalizing l with
  | nil => rfl
  | cons c rest ih =>
    obtain ⟨here, others⟩ := List.forall_mem_cons.1 known
    obtain ⟨loadsHere, loadsOthers⟩ := List.forall_mem_cons.1 loads
    have checked := alike_check l E t c.entry c.dir
    have truthful' : (l.check E t c.entry c.dir).2.inventory.Truthful identify t := by
      rw [inventory_check, Inventory.check_congr (identifies l.engine)]
      exact truthful.check here c.dir
    have present : (l.check E t c.entry c.dir).1 =
        (Presence.modelPresent identify t c.dir c.entry.model).1 := by
      rw [check_fst, Inventory.check_congr (identifies l.engine), truthful.check_fst here]
    rw [List.find?_cons, ← present]
    cases there : (l.check E t c.entry c.dir).1 with
    | true =>
      have loaded : (l.tryCandidate E t c).1 = true := by
        rw [tryCandidate_fst_of_present there,
          (checked.load identifies truthful truthful' here c.dir).1]
        exact loadsHere (present ▸ there)
      simp only [firstLoaded, loaded, if_true]
    | false =>
      simp only [firstLoaded, tryCandidate_of_absent there, Bool.false_eq_true, if_false]
      apply ih truthful'
      · intro c' listed
        rw [checked.catalog]
        exact others c' listed
      · intro c' listed found
        rw [(checked.load identifies truthful truthful' (others c' listed) c'.dir).1]
        exact loadsOthers c' listed found

end Loading

/-! ## The listing -/

namespace Listing

variable {identify : Identifier} {t : FileTree} {C : Catalog} {rows : List Row} {m : Model}
  {selector : ModelSelector} {dir : String}

/-- What a listing tells: the highlighted model, and the directory of the first row with a
highlighted cell. -/
def Sheet.choice (s : Sheet) : Option (Model × String) :=
  (s.labels.find? Cell.isHighlighted).bind fun label =>
    (s.lines.find? fun line => line.cells.any Cell.isHighlighted).map fun line =>
      (label.model, line.dir)

theorem find?_eraseDups (p : String → Bool) (xs : List String) :
    xs.eraseDups.find? p = xs.find? p := by
  induction size : xs.length using Nat.strongRecOn generalizing xs with
  | ind n ih =>
    cases xs with
    | nil => rfl
    | cons x rest =>
      have shorter : (rest.filter fun y => !y == x).length < n :=
        size ▸ Nat.lt_succ_of_le (List.length_filter_le ..)
      rw [List.eraseDups_cons, List.find?_cons, List.find?_cons]
      cases here : p x with
      | true => rfl
      | false =>
        simp only [ih _ shorter _ rfl, List.find?_filter]
        apply List.find?_congr
        intro y _
        by_cases same : y = x <;> simp [same, here]

/-- The first row that holds a model is that of the first directory that does. -/
theorem find?_rowsOf (found : String → List Model) (dirs : List String) (m : Model) :
    ((rowsOf found dirs).find? (·.holds m)).map Row.dir =
      dirs.find? fun dir => Row.holds ⟨dir, found dir⟩ m := by
  rw [rowsOf, List.find?_map, find?_eraseDups, List.find?_filter, Option.map_map]
  have same : dirs.find? (fun dir => decide ((!(found dir).isEmpty) = true ∧
      ((·.holds m) ∘ fun dir => (⟨dir, found dir⟩ : Row)) dir = true)) =
      dirs.find? fun dir => Row.holds ⟨dir, found dir⟩ m := by
    apply List.find?_congr
    intro dir _
    cases holds : Row.holds ⟨dir, found dir⟩ m with
    | false => simp [holds]
    | true =>
      have some : found dir ≠ [] := by
        rintro none
        simp [Row.holds, none] at holds
      simp [holds, some]
  rw [same, show Row.dir ∘ (fun dir => (⟨dir, found dir⟩ : Row)) = id from rfl, Option.map_id]
  rfl

theorem any_rowsOf (found : String → List Model) (dirs : List String) (m : Model) :
    (rowsOf found dirs).any (·.holds m) = dirs.any fun dir => Row.holds ⟨dir, found dir⟩ m := by
  rw [← List.isSome_find?, ← List.isSome_find?, ← find?_rowsOf, Option.isSome_map]

/-- A row holds a model just if that is present, where no other model has its name. -/
theorem holds_of_distinct (distinct : C.names.Nodup) (listed : m ∈ C.models) :
    Row.holds ⟨dir, holdings C identify t dir⟩ m = (Presence.modelPresent identify t dir m).1 := by
  have held : (⟨dir, holdings C identify t dir⟩ : Row).present ⊆ C.models := by
    rw [holdings_eq]
    exact List.filter_sublist.subset
  rw [Bool.eq_iff_iff, holds_iff_mem distinct held listed, holdings_eq, List.mem_filter]
  exact and_iff_right listed

/-- The selected model: the first of those in any row that the selector accepts. -/
def selected? (C : Catalog) (rows : List Row) (selector : ModelSelector) : Option Model :=
  C.models.find? fun m => selector.accepts m && rows.any (·.holds m)

/-- **The label that is highlighted** is the selected model's. -/
theorem find?_labels (C : Catalog) (rows : List Row) (selector : ModelSelector) :
    ((Sheet.ofRows C rows selector).labels.find? Cell.isHighlighted).map Cell.model =
      selected? C rows selector := by
  have style : ∀ m, (labelOf rows (highlighted C rows selector) m).isHighlighted =
      (rows.any (·.holds m) && highlighted C rows selector == some m.name) := by
    intro m
    simp only [labelOf, Cell.isHighlighted]
    cases rows.any (·.holds m) <;> by_cases chosen : highlighted C rows selector = some m.name <;>
      simp [chosen]
  rw [Sheet.ofRows, List.find?_map, Option.map_map,
    show Cell.model ∘ labelOf rows (highlighted C rows selector) = id from rfl, Option.map_id,
    id_eq]
  cases selector with
  | named name =>
    apply List.find?_congr
    intro m _
    rw [Function.comp_apply, style, Bool.and_comm, ModelSelector.accepts, highlighted,
      Option.some_beq_some, BEq.comm]
  | auto =>
    cases first : C.models.find? fun m => rows.any (·.holds m) with
    | none =>
      have nowhere := List.find?_eq_none.1 first
      simp only [selected?, ModelSelector.accepts, Bool.true_and, first]
      apply List.find?_eq_none.2
      intro m listed
      simp [style, nowhere m listed]
    | some m =>
      obtain ⟨there, before, after, split, passed⟩ := List.find?_eq_some_iff_append.1 first
      simp only [selected?, ModelSelector.accepts, Bool.true_and, first]
      apply List.find?_eq_some_iff_append.2
      refine ⟨?_, before, after, split, ?_⟩
      · rw [Function.comp_apply, style, there, highlighted, first]
        simp
      · intro m' earlier
        have absent : (rows.any fun row => row.holds m') = false := by
          simpa only [Bool.not_eq_true'] using passed m' earlier
        rw [Function.comp_apply, style, absent]
        rfl

theorem highlighted_of_selected? (chosen : selected? C rows selector = some m) :
    highlighted C rows selector = some m.name := by
  cases selector with
  | auto =>
    simp only [selected?, ModelSelector.accepts, Bool.true_and] at chosen
    rw [highlighted, chosen]
    rfl
  | named name =>
    have accepted := List.find?_some chosen
    simp_all [highlighted, ModelSelector.accepts]

/-- **What a listing tells** is the selected model and the first row that holds it. -/
theorem choice_ofRows (C : Catalog) (rows : List Row) (selector : ModelSelector) :
    (Sheet.ofRows C rows selector).choice =
      (selected? C rows selector).bind fun m =>
        (rows.find? (·.holds m)).map fun row => (m, row.dir) := by
  have lines := find?_markedRows C (highlighted C rows selector) rows false
  have label := find?_labels C rows selector
  have split : (Sheet.ofRows C rows selector).choice =
      (((Sheet.ofRows C rows selector).labels.find? Cell.isHighlighted).map Cell.model).bind
        fun m => (((Sheet.ofRows C rows selector).lines.find? fun line =>
          line.cells.any Cell.isHighlighted).map MarkedRow.dir).map fun dir => (m, dir) := by
    simp only [Sheet.choice, Option.bind_map, Option.map_map, Function.comp_def]
  rw [split, label, Sheet.ofRows, lines, if_neg Bool.false_ne_true]
  cases chosen : selected? C rows selector with
  | none => rfl
  | some m =>
    have listed : m ∈ C.models := List.mem_of_find?_eq_some chosen
    have holds : ∀ row : Row, C.models.any (row.isSelected (some m.name)) = row.holds m := by
      intro row
      rw [Bool.eq_iff_iff, List.any_eq_true]
      constructor
      · rintro ⟨m', -, held⟩
        obtain ⟨held, same⟩ := Bool.and_eq_true_iff.1 held
        have equal : m.name = m'.name := by simpa using same
        simpa [Row.holds, Model.same, equal] using held
      · intro held
        exact ⟨m, listed, by simp [Row.isSelected, held]⟩
    rw [highlighted_of_selected? chosen]
    simp only [holds, Option.bind_some, Option.map_map, Function.comp_def]

/-- **A listing tells the choice** where no two models have one name. -/
theorem choice_of_distinct (distinct : C.names.Nodup) (identify : Identifier) (t : FileTree)
    (selector : ModelSelector) (dirs : List String) :
    (Sheet.ofRows C (rowsOf (holdings C identify t) dirs) selector).choice =
      C.choice selector dirs fun dir m => (Presence.modelPresent identify t dir m).1 := by
  have holds : ∀ m ∈ C.models, (fun dir => Row.holds ⟨dir, holdings C identify t dir⟩ m) =
      fun dir => (Presence.modelPresent identify t dir m).1 := by
    intro m listed
    funext dir
    exact holds_of_distinct distinct listed
  have selected : selected? C (rowsOf (holdings C identify t) dirs) selector =
      C.models.find? fun m => selector.accepts m &&
        dirs.any fun dir => (Presence.modelPresent identify t dir m).1 := by
    apply List.find?_congr
    intro m listed
    rw [any_rowsOf, holds m listed]
  rw [choice_ofRows, Catalog.choice_eq_bind, selected]
  cases chosen : C.models.find? fun m => selector.accepts m &&
      dirs.any fun dir => (Presence.modelPresent identify t dir m).1 with
  | none => rfl
  | some m =>
    have first := find?_rowsOf (holdings C identify t) dirs m
    rw [holds m (List.mem_of_find?_eq_some chosen)] at first
    rw [Option.bind_some, Option.bind_some, ← first, Option.map_map]
    rfl

theorem truthful_rows {inv : Inventory} (truthful : inv.Truthful identify t) (dirs : List String) :
    (Listing.rows inv identify t dirs []).2.2.Truthful identify t := by
  rw [rows_snd]
  apply truthful.checkAll
  intro c listed
  exact entry_mem_of_mem_checks listed

end Listing

/-! ## All three -/

/-- What the command prints before it tells its choice. -/
def Command.Plan.preface (p : Command.Plan) (o : Command.Options) (color : Bool) (t : FileTree) :
    String :=
  (if o.dirs then Command.dirsText p.dirs else "") ++
    if o.list then
      (Listing.render color { catalog := p.catalog } (Probe.identify p.catalog) t p.config.model
        p.dirs Command.standardWidth).1 ++ "\n"
    else ""

/-- What the command comes to, given its choice. -/
def Command.Plan.report (p : Command.Plan) (preface : String) :
    Option (Model × String) → Command.Report
  | some (m, dir) =>
    let model := m.name
    { code := 0, out := preface ++ s!"Model {model} would be loaded from {dir}\n" }
  | none =>
    Command.refused preface (Command.causes (.romsNotFound p.config.model.text p.dirs))

/-- **The command carries out its choice**, whether it made a listing before or not. -/
theorem Command.Plan.carryOut_eq (p : Command.Plan) (o : Command.Options) (color : Bool)
    (t : FileTree) :
    p.carryOut o color t = p.report (p.preface o color t)
      (p.catalog.choice p.config.model p.dirs fun dir m =>
        (Presence.modelPresent (Probe.identify p.catalog) t dir m).1) := by
  have new : Inventory.Truthful { catalog := p.catalog } (Probe.identify p.catalog) t :=
    Inventory.truthful_of_known_eq_nil rfl
  have found : ∀ inv : Inventory, inv.catalog = p.catalog →
      inv.Truthful (Probe.identify p.catalog) t →
      (Command.firstPresent inv (Probe.identify p.catalog) t
        (p.catalog.candidates p.config.model p.dirs)).map Catalog.Candidate.pair =
        p.catalog.choice p.config.model p.dirs fun dir m =>
          (Presence.modelPresent (Probe.identify p.catalog) t dir m).1 := by
    intro inv catalog truthful
    rw [Command.firstPresent_of_truthful truthful]
    · exact Catalog.find?_candidates_eq_choice _ _ _ fun dir m =>
        (Presence.modelPresent (Probe.identify p.catalog) t dir m).1
    · intro c listed
      rw [catalog]
      exact Loading.entry_of_mem_candidates listed
  unfold Command.Plan.carryOut Command.Plan.preface
  cases o.list with
  | true =>
    have catalog : (Listing.rows { catalog := p.catalog } (Probe.identify p.catalog) t p.dirs
        []).2.2.catalog = p.catalog := Listing.catalog_rows ..
    rw [← found _ catalog (Listing.truthful_rows new p.dirs)]
    simp only [if_true, Listing.render]
    split <;> simp_all [Command.Plan.report, Catalog.Candidate.pair]
  | false =>
    rw [← found _ rfl new]
    simp only [Bool.false_eq_true, if_false]
    split <;> simp_all [Command.Plan.report, Catalog.Candidate.pair]

namespace Catalog

/-- **The three answers agree.** Let no two models of a catalog have one name, and let an engine
tell files as the listing does and load, as it is, every model that is present. Then, whatever is
remembered of the files,

* the candidate that the command finds,
* the one that a search loads, and
* the highlighted model with the directory of the first row with a highlighted cell

are all the first accepted model that is in any of the directories, from the first directory that
it is in; and where there is none, nothing is found, the search fails and nothing is highlighted.
The command prints just that. -/
theorem choices_agree (C : Catalog) (distinct : C.names.Nodup) (identify : Identifier)
    (t : FileTree) (selector : ModelSelector) (dirs : List String) (E : Engine α σ) (s : σ)
    (identifies : ∀ s, E.identify s t = identify t) (inv : Inventory) (catalog : inv.catalog = C)
    (truthful : inv.Truthful identify t)
    (loads : ∀ e ∈ C.entries, ∀ dir ∈ dirs,
      (Presence.modelPresent identify t dir e.model).1 = true →
        (Loading.load E t { engine := s, inventory := inv } e dir).1 = true) :
    let choice := C.choice selector dirs fun dir m => (Presence.modelPresent identify t dir m).1
    (Command.firstPresent inv identify t (C.candidates selector dirs)).map Candidate.pair = choice ∧
    (Loading.resolve E t { engine := s, inventory := inv } selector dirs).1.map Candidate.pair =
      (match choice with
        | some x => .ok x
        | none => .error (.romsNotFound selector.text dirs)) ∧
    (Listing.sheet inv identify t selector dirs).choice = choice ∧
    (∀ color termWidth, (Listing.render color inv identify t selector dirs termWidth).1 =
      (Listing.sheet inv identify t selector dirs).write color
        (Listing.dirsWidth C (Listing.rows inv identify t dirs []).1 termWidth)) ∧
    ∀ (p : Command.Plan) (o : Command.Options) (color : Bool), p.catalog = C →
      p.config.model = selector → p.dirs = dirs → Probe.identify C t = identify t →
        p.carryOut o color t = p.report (p.preface o color t) choice := by
  subst catalog
  intro choice
  have first : ((inv.catalog.candidates selector dirs).find? fun c =>
      (Presence.modelPresent identify t c.dir c.entry.model).1).map Candidate.pair = choice :=
    find?_candidates_eq_choice _ _ _ fun dir m => (Presence.modelPresent identify t dir m).1
  have known : ∀ c ∈ inv.catalog.candidates selector dirs, c.entry ∈ inv.catalog.entries := by
    intro c listed
    exact Loading.entry_of_mem_candidates listed
  refine ⟨?_, ?_, ?_, ?_, ?_⟩
  · rw [Command.firstPresent_of_truthful truthful known]
    exact first
  · have found := Loading.firstLoaded_of_loads (l := { engine := s, inventory := inv }) identifies
      truthful known (by
        intro c listed
        obtain ⟨entry, -, dir⟩ := mem_candidates.1 listed
        exact loads c.entry entry c.dir dir)
    rw [Loading.resolve_eq, found, ← first]
    cases (inv.catalog.candidates selector dirs).find? fun c =>
      (Presence.modelPresent identify t c.dir c.entry.model).1 <;> rfl
  · rw [Listing.sheet, Listing.rows_of_truthful truthful]
    simpa using Listing.choice_of_distinct distinct identify t selector dirs
  · intro color termWidth
    exact Listing.render_eq_write color inv identify t selector dirs termWidth
  · rintro p o color same rfl rfl tells
    rw [p.carryOut_eq o color t]
    simp only [same, Presence.modelPresent_congr tells, choice]

/-- On the shelves the first directory has only the second model; the first model and the second
directory are chosen all the same. -/
theorem choices_agree_on_shelves :
    Loading.shelfCatalog.names.Nodup ∧
    (∀ s, Loading.shelfEngine.identify s Loading.shelves =
      Loading.shelfEngine.identifier Loading.shelves) ∧
    Inventory.Truthful { catalog := Loading.shelfCatalog } Loading.shelfEngine.identifier
      Loading.shelves ∧
    (∀ e ∈ Loading.shelfCatalog.entries, ∀ dir ∈ ["one/", "two/", "one/"],
      (Presence.modelPresent Loading.shelfEngine.identifier Loading.shelves dir e.model).1 = true →
        (Loading.load Loading.shelfEngine Loading.shelves
          { engine := Loading.shelfEngine.create, inventory := { catalog := Loading.shelfCatalog } }
          e dir).1 = true) ∧
    (Listing.sheet { catalog := Loading.shelfCatalog } Loading.shelfEngine.identifier
      Loading.shelves .auto ["one/", "two/", "one/"]).choice.map (fun x => (x.1.name, x.2)) =
      some ("a", "two/") := by
  have reads : Loading.shelfEngine.ReadsContents := Scripted.readsContents _
  have distinct : Loading.shelfCatalog.names.Nodup := by decide
  have identifies : ∀ s, Loading.shelfEngine.identify s Loading.shelves =
      Loading.shelfEngine.identifier Loading.shelves := by
    intro s
    rw [reads.identifier_eq]
  have new : Inventory.Truthful { catalog := Loading.shelfCatalog } Loading.shelfEngine.identifier
      Loading.shelves := Inventory.truthful_of_known_eq_nil rfl
  have loads : ∀ e ∈ Loading.shelfCatalog.entries, ∀ dir ∈ ["one/", "two/", "one/"],
      (Presence.modelPresent Loading.shelfEngine.identifier Loading.shelves dir e.model).1 = true →
        (Loading.load Loading.shelfEngine Loading.shelves
          { engine := Loading.shelfEngine.create, inventory := { catalog := Loading.shelfCatalog } }
          e dir).1 = true := by
    decide +kernel
  obtain ⟨-, -, told, -⟩ := choices_agree Loading.shelfCatalog distinct
    Loading.shelfEngine.identifier Loading.shelves .auto ["one/", "two/", "one/"]
    Loading.shelfEngine Loading.shelfEngine.create identifies { catalog := Loading.shelfCatalog }
    rfl new loads
  refine ⟨distinct, identifies, new, loads, ?_⟩
  rw [told]
  decide +kernel

end Catalog

end SynthBridge
