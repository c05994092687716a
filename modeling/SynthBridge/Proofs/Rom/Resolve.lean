import SynthBridge.Proofs.Rom.Loading

/-!
# Which model is found

The candidates of a search come model by model, and for each model directory by directory
(`Catalog.find?_candidates`). A search finds the first that the engine loads and forgets the others
(`Loading.Knows.firstLoaded`), so that its answer is a function of the files, whatever was tried and
remembered on the way: `Loading.resolve_picks_first`.
-/

namespace SynthBridge

/-! ## The order of the candidates -/

namespace Catalog

variable {C : Catalog} {selector : ModelSelector} {dirs : List String}
  {loads : String → Model → Bool} {c c' : Candidate}

theorem pairwise_entries (C : Catalog) : C.entries.Pairwise (·.index < ·.index) := by
  have indices : C.entries.map Entry.index = List.range' 0 C.models.length := by
    simp [entries, ← List.zipIdx_map_snd, Function.comp_def]
  have sorted : (C.entries.map Entry.index).Pairwise (· < ·) := by
    rw [indices]
    exact List.pairwise_lt_range' 1
  exact List.pairwise_map.1 sorted

/-- A candidate is one of a model that is accepted and one of the directories. -/
theorem mem_candidates : c ∈ C.candidates selector dirs ↔
    c.entry ∈ C.entries ∧ selector.accepts c.entry.model = true ∧ c.dir ∈ dirs := by
  obtain ⟨e, dir⟩ := c
  simp only [candidates, List.mem_flatMap, List.mem_filter, List.mem_map, Candidate.mk.injEq]
  constructor
  · rintro ⟨e', ⟨known, accepted⟩, dir', there, rfl, rfl⟩
    exact ⟨known, accepted, there⟩
  · rintro ⟨known, accepted, there⟩
    exact ⟨e, ⟨known, accepted⟩, dir, there, rfl, rfl⟩

/-- Of all models that a selector accepts and directories from which they can be loaded, `c` comes
first: by the place of the model, then by the place of the directory. -/
def Candidate.IsFirst (C : Catalog) (selector : ModelSelector) (dirs : List String)
    (loads : String → Model → Bool) (c : Candidate) : Prop :=
  ∃ j : Nat, C.models[c.entry.index]? = some c.entry.model ∧ dirs[j]? = some c.dir ∧
    selector.accepts c.entry.model = true ∧ loads c.dir c.entry.model = true ∧
    ∀ (i' j' : Nat) (m : Model) (dir : String), C.models[i']? = some m →
      dirs[j']? = some dir → selector.accepts m = true → loads dir m = true →
        c.entry.index < i' ∨ c.entry.index = i' ∧ j ≤ j'

theorem Candidate.IsFirst.unique (h : c.IsFirst C selector dirs loads)
    (h' : c'.IsFirst C selector dirs loads) : c = c' := by
  obtain ⟨j, model, dir, accepted, loaded, first⟩ := h
  obtain ⟨j', model', dir', accepted', loaded', first'⟩ := h'
  have before := first _ _ _ _ model' dir' accepted' loaded'
  have after := first' _ _ _ _ model dir accepted loaded
  have sameIndex : c.entry.index = c'.entry.index := by omega
  have samePlace : j = j' := by omega
  subst samePlace
  have sameEntry := eq_of_index_eq (mem_entries.2 model) (mem_entries.2 model') sameIndex
  have sameDir := Option.some.inj (dir.symm.trans dir')
  obtain ⟨e, d⟩ := c
  obtain ⟨e', d'⟩ := c'
  obtain rfl : e = e' := sameEntry
  obtain rfl : d = d' := sameDir
  rfl

theorem isFirst_of_find? (found : (C.candidates selector dirs).find?
    (fun c => loads c.dir c.entry.model) = some c) : c.IsFirst C selector dirs loads := by
  obtain ⟨known, accepted, -⟩ := mem_candidates.1 (List.mem_of_find?_eq_some found)
  have loaded := List.find?_some found
  simp only [candidates, List.find?_flatMap, List.findSome?_eq_some_iff] at found
  obtain ⟨before, e, after, split, here, passed⟩ := found
  rw [List.find?_map, Option.map_eq_some_iff] at here
  obtain ⟨dir, here, rfl⟩ := here
  obtain ⟨-, front, back, rfl, skipped⟩ := List.find?_eq_some_iff_append.1 here
  refine ⟨front.length, mem_entries.1 known, by simp, accepted, loaded, ?_⟩
  intro i' j' m dir' model' there accepted' loaded'
  have sorted : (before ++ e :: after).Pairwise (·.index < ·.index) :=
    split ▸ (pairwise_entries C).filter _
  have listed : (⟨i', m⟩ : Entry) ∈ before ++ e :: after := by
    rw [← split, List.mem_filter]
    exact ⟨mem_entries.2 model', accepted'⟩
  rcases List.mem_append.1 listed with earlier | other
  · -- The models before have no directory at all.
    have none := passed _ earlier
    rw [List.find?_eq_none] at none
    have missed := none ⟨⟨i', m⟩, dir'⟩ (List.mem_map.2 ⟨dir', List.mem_of_getElem? there, rfl⟩)
    exact absurd loaded' missed
  · rcases List.mem_cons.1 other with same | later
    · subst same
      refine .inr ⟨rfl, Nat.le_of_not_lt fun short => ?_⟩
      have passedBy : dir' ∈ front := by
        rw [List.getElem?_append_left short] at there
        exact List.mem_of_getElem? there
      have missed := skipped dir' passedBy
      simp only [Function.comp_apply, loaded', Bool.not_true, Bool.false_eq_true] at missed
    · exact .inl (List.rel_of_pairwise_cons (List.pairwise_append.1 sorted).2.1 later)

/-- **The first candidate that can be loaded**, found by going through all of them in their order,
is first by model and then by directory. -/
theorem find?_candidates : (C.candidates selector dirs).find?
    (fun c => loads c.dir c.entry.model) = some c ↔ c.IsFirst C selector dirs loads := by
  constructor
  · exact isFirst_of_find?
  · intro first
    obtain ⟨j, model, dir, accepted, loaded, -⟩ := id first
    have listed : c ∈ C.candidates selector dirs :=
      mem_candidates.2 ⟨mem_entries.2 model, accepted, List.mem_of_getElem? dir⟩
    cases found : (C.candidates selector dirs).find? (fun c => loads c.dir c.entry.model) with
    | none => exact absurd loaded (by simpa using List.find?_eq_none.1 found c listed)
    | some c' => rw [(isFirst_of_find? found).unique first]

/-- What is added behind does not come first, unless it is a directory from which a model can be
loaded that comes before. -/
theorem Candidate.IsFirst.append (first : c.IsFirst C selector dirs loads) {models : List Model}
    {dirs' : List String}
    (behind : ∀ i m, i < c.entry.index → C.models[i]? = some m → selector.accepts m = true →
      ∀ dir ∈ dirs', loads dir m = false) :
    c.IsFirst ⟨C.models ++ models⟩ selector (dirs ++ dirs') loads := by
  obtain ⟨j, model, dir, accepted, loaded, first⟩ := first
  have short : c.entry.index < C.models.length := (List.getElem?_eq_some_iff.1 model).1
  have near : j < dirs.length := (List.getElem?_eq_some_iff.1 dir).1
  refine ⟨j, ?_, ?_, accepted, loaded, ?_⟩
  · rw [List.getElem?_append_left short, model]
  · rw [List.getElem?_append_left near, dir]
  · intro i' j' m d model' there accepted' loaded'
    rcases Nat.lt_or_ge c.entry.index i' with later | upTo
    · exact .inl later
    · rw [List.getElem?_append_left (by omega)] at model'
      rcases Nat.lt_or_ge j' dirs.length with old | new
      · rw [List.getElem?_append_left old] at there
        exact first i' j' m d model' there accepted' loaded'
      · rcases Nat.lt_or_eq_of_le upTo with before | same
        · rw [List.getElem?_append_right new] at there
          have missed := behind i' m before model' accepted' d (List.mem_of_getElem? there)
          simp [missed] at loaded'
        · exact .inr ⟨same.symm, by omega⟩

/-- The model and the directory of a candidate. -/
def Candidate.pair (c : Candidate) : Model × String := (c.entry.model, c.dir)

/-- What is to be tried depends on the accepted models only, the places of the models apart. -/
theorem map_pair_candidates (C : Catalog) (selector : ModelSelector) (dirs : List String) :
    (C.candidates selector dirs).map Candidate.pair =
      (C.models.filter selector.accepts).flatMap fun m => dirs.map (m, ·) := by
  rw [← map_model_entries C, List.filter_map]
  simp only [candidates, List.map_flatMap, List.flatMap_map, List.map_map, Function.comp_def,
    Candidate.pair]

end Catalog

namespace Loading

variable {α σ : Type} {E : Engine α σ} {t : FileTree} {l : Loading α σ} {C : Catalog}
  {c : Catalog.Candidate} {cs : List Catalog.Candidate} {selector : ModelSelector}
  {dirs : List String}

/-! ## Searching -/

/-- A catalog of which nothing is known, and an engine. -/
def fresh (s : σ) (catalog : Catalog) : Loading α σ := { engine := s, inventory := { catalog } }

/-- What is remembered of a catalog is what the engine makes of the files. -/
structure Knows (E : Engine α σ) (t : FileTree) (l : Loading α σ) (C : Catalog) : Prop where
  catalog : l.inventory.catalog = C
  truthful : l.inventory.Truthful E.identifier t

theorem knows_fresh (E : Engine α σ) (t : FileTree) (s : σ) (C : Catalog) :
    (fresh s C : Loading α σ).Knows E t C :=
  ⟨rfl, Inventory.truthful_of_known_eq_nil rfl⟩

theorem Knows.tryCandidate (reads : E.ReadsContents) (knows : l.Knows E t C)
    (known : c.entry ∈ C.entries) : (l.tryCandidate E t c).2.Knows E t C := by
  obtain ⟨rfl, truthful⟩ := knows
  have after := inventory_tryCandidate (l := l) (t := t) (c := c) reads
  refine ⟨?_, ?_⟩
  · rw [after, Inventory.catalog_check]
  · rw [after]
    exact truthful.check known c.dir

theorem Knows.tryCandidate_fst (reads : E.ReadsContents) (knows : l.Knows E t C)
    (known : c.entry ∈ C.entries) :
    (l.tryCandidate E t c).1 = E.loads t c.dir c.entry.model := by
  obtain ⟨rfl, truthful⟩ := knows
  exact Loading.tryCandidate_fst reads truthful known

/-- **Candidates are passed by until one can be loaded**, and nothing that is left behind or
remembered on the way makes a difference. -/
theorem Knows.firstLoaded (reads : E.ReadsContents) (knows : l.Knows E t C)
    (known : ∀ c ∈ cs, c.entry ∈ C.entries) :
    (l.firstLoaded E t cs).1 = cs.find? (fun c => E.loads t c.dir c.entry.model) ∧
      (l.firstLoaded E t cs).2.Knows E t C := by
  induction cs generalizing l with
  | nil => exact ⟨rfl, knows⟩
  | cons c rest ih =>
    obtain ⟨here, others⟩ := List.forall_mem_cons.1 known
    have answer := knows.tryCandidate_fst reads here
    have after := knows.tryCandidate reads here
    simp only [Loading.firstLoaded, answer, List.find?_cons]
    cases E.loads t c.dir c.entry.model with
    | true => exact ⟨rfl, after⟩
    | false => exact ih after others

theorem entry_of_mem_candidates (listed : c ∈ C.candidates selector dirs) : c.entry ∈ C.entries :=
  (Catalog.mem_candidates.1 listed).1

/-- The answer of a search, given the first candidate that can be loaded. -/
def answer (selector : ModelSelector) (dirs : List String) :
    Option Catalog.Candidate → Except Failure Catalog.Candidate
  | some c => .ok c
  | none => .error (.romsNotFound selector.text dirs)

theorem resolve_eq : l.resolve E t selector dirs =
    (answer selector dirs (l.firstLoaded E t (l.inventory.catalog.candidates selector dirs)).1,
      (l.firstLoaded E t (l.inventory.catalog.candidates selector dirs)).2) := by
  unfold resolve
  generalize l.firstLoaded E t (l.inventory.catalog.candidates selector dirs) = result
  obtain ⟨_ | c, l'⟩ := result <;> rfl

/-- **A search** ends with the first candidate that the engine loads. -/
theorem Knows.resolve (reads : E.ReadsContents) (knows : l.Knows E t C) (selector : ModelSelector)
    (dirs : List String) :
    (l.resolve E t selector dirs).1 = answer selector dirs
        ((C.candidates selector dirs).find? fun c => E.loads t c.dir c.entry.model) ∧
      (l.resolve E t selector dirs).2.Knows E t C := by
  obtain ⟨found, after⟩ := knows.firstLoaded reads
    (fun c (listed : c ∈ C.candidates selector dirs) => entry_of_mem_candidates listed)
  rw [resolve_eq, knows.catalog, ← found]
  exact ⟨rfl, after⟩

theorem answer_eq_ok {x : Option Catalog.Candidate} :
    answer selector dirs x = .ok c ↔ x = some c := by
  cases x <;> simp [answer]

theorem answer_eq_error {x : Option Catalog.Candidate} :
    answer selector dirs x = .error (.romsNotFound selector.text dirs) ↔ x = none := by
  cases x <;> simp [answer]

theorem map_pair_answer (cs : List Catalog.Candidate) :
    (answer selector dirs (cs.find? fun c => E.loads t c.dir c.entry.model)).map
        Catalog.Candidate.pair =
      match (cs.map Catalog.Candidate.pair).find? fun p => E.loads t p.2 p.1 with
      | some p => .ok p
      | none => .error (.romsNotFound selector.text dirs) := by
  rw [List.find?_map]
  simp only [Function.comp_def, Catalog.Candidate.pair]
  cases cs.find? fun c => E.loads t c.dir c.entry.model <;> rfl

/-! ## What the answer depends on -/

/-- **The first model that can be had is loaded.** For an engine that goes by the contents of files,
a search over a new catalog finds the first accepted model, and for it the first directory, such
that the model is present there and the engine fills both of its roles from there; it fails, with
the selector's text and all directories searched, just if there is none. Hence the answer stays

* if models are added behind the others, and if directories are added from which no accepted model
  before the one found can be loaded;
* if models that the selector does not accept come or go;
* if the search is made again with another engine and all that is remembered by then. -/
theorem resolve_picks_first (E : Engine α σ) (reads : E.ReadsContents) (t : FileTree) (s : σ)
    (C : Catalog) (selector : ModelSelector) (dirs : List String) :
    (∀ c, ((fresh s C).resolve E t selector dirs).1 = .ok c ↔
      c.IsFirst C selector dirs (E.loads t)) ∧
    (((fresh s C).resolve E t selector dirs).1 = .error (.romsNotFound selector.text dirs) ↔
      ∀ m ∈ C.models, selector.accepts m = true → ∀ dir ∈ dirs, E.loads t dir m = false) ∧
    (∀ c models dirs', ((fresh s C).resolve E t selector dirs).1 = .ok c →
      (∀ i m, i < c.entry.index → C.models[i]? = some m → selector.accepts m = true →
        ∀ dir ∈ dirs', E.loads t dir m = false) →
      ((fresh s ⟨C.models ++ models⟩).resolve E t selector (dirs ++ dirs')).1 = .ok c) ∧
    (∀ models, models.filter selector.accepts = C.models.filter selector.accepts →
      ((fresh s ⟨models⟩).resolve E t selector dirs).1.map Catalog.Candidate.pair =
        ((fresh s C).resolve E t selector dirs).1.map Catalog.Candidate.pair) ∧
    (∀ s', (resolve E t
        { engine := s', inventory := ((fresh s C).resolve E t selector dirs).2.inventory }
        selector dirs).1 = ((fresh s C).resolve E t selector dirs).1) := by
  have found : ∀ C dirs, ((fresh s C).resolve E t selector dirs).1 = answer selector dirs
      ((C.candidates selector dirs).find? fun c => E.loads t c.dir c.entry.model) :=
    fun C dirs => ((knows_fresh E t s C).resolve reads selector dirs).1
  have first : ∀ C dirs c, ((fresh s C).resolve E t selector dirs).1 = .ok c ↔
      c.IsFirst C selector dirs (E.loads t) := fun C dirs c => by
    rw [found, answer_eq_ok, Catalog.find?_candidates]
  refine ⟨first C dirs, ?_, ?_, ?_, ?_⟩
  · rw [found, answer_eq_error, List.find?_eq_none]
    constructor
    · intro none m listed accepted dir there
      obtain ⟨i, model⟩ := List.getElem?_of_mem listed
      have missed := none ⟨⟨i, m⟩, dir⟩
        (Catalog.mem_candidates.2 ⟨Catalog.mem_entries.2 model, accepted, there⟩)
      simpa using missed
    · intro none c listed
      obtain ⟨known, accepted, there⟩ := Catalog.mem_candidates.1 listed
      have model := List.mem_of_getElem? (Catalog.mem_entries.1 known)
      simp [none _ model accepted _ there]
  · intro c models dirs' here behind
    rw [first] at here ⊢
    exact here.append behind
  · intro models same
    simp only [found, map_pair_answer, Catalog.map_pair_candidates, same]
  · intro s'
    obtain ⟨here, knows⟩ := (knows_fresh E t s C).resolve reads selector dirs
    have again : Knows E t
        { engine := s', inventory := ((fresh s C).resolve E t selector dirs).2.inventory } C :=
      ⟨knows.catalog, knows.truthful⟩
    rw [(again.resolve reads selector dirs).1, here]

/-- Two models, each in a directory of its own, the second model in the first directory. -/
def shelves : FileTree :=
  ⟨[(["", "one", "pb.bin"], .file "pcm_b".toUTF8), (["", "one", "cb.bin"], .file "ctrl_b".toUTF8),
    (["", "two", "pa.bin"], .file "pcm_a".toUTF8), (["", "two", "ca.bin"], .file "ctrl_a".toUTF8),
    (["", "one"], .folder), (["", "two"], .folder), ([""], .folder)]⟩

def shelfCatalog : Catalog :=
  ⟨[⟨"a", .ofFull ⟨"pcm_a", "pa.bin"⟩, .ofFull ⟨"ctrl_a", "ca.bin"⟩, by decide, by decide,
      by decide⟩,
    ⟨"b", .ofFull ⟨"pcm_b", "pb.bin"⟩, .ofFull ⟨"ctrl_b", "cb.bin"⟩, by decide, by decide,
      by decide⟩]⟩

def shelfEngine : Engine Extended (Scripted.State Extended) := Scripted.engine { wave := #[] }

/-- The second model is found in the first directory, and still so where both models are listed once
more and a directory is searched that has neither. -/
theorem resolve_picks_first_on_shelves :
    shelfEngine.ReadsContents ∧ ∃ c : Catalog.Candidate,
      c.IsFirst shelfCatalog .auto ["one/"] (shelfEngine.loads shelves) ∧
      c.entry.index = 1 ∧ c.dir = "one/" ∧
      ((fresh shelfEngine.create ⟨shelfCatalog.models ++ shelfCatalog.models⟩).resolve shelfEngine
        shelves .auto (["one/"] ++ ["three/"])).1 = .ok c := by
  have reads : shelfEngine.ReadsContents := Scripted.readsContents _
  obtain ⟨first, -, added, -⟩ := resolve_picks_first shelfEngine reads shelves shelfEngine.create
    shelfCatalog .auto ["one/"]
  have second : ((fresh shelfEngine.create shelfCatalog).resolve shelfEngine shelves .auto
      ["one/"]).1.toOption.any (fun c => c.entry.index == 1 && c.dir == "one/") = true := by
    decide +kernel
  cases found : ((fresh shelfEngine.create shelfCatalog).resolve shelfEngine shelves .auto
      ["one/"]).1 with
  | error f => simp [found, Except.toOption] at second
  | ok c =>
    simp only [found, Except.toOption, Option.any_some, Bool.and_eq_true, beq_iff_eq] at second
    refine ⟨reads, c, (first c).1 found, second.1, second.2, added c _ _ found ?_⟩
    intro i m before model _ dir there
    obtain rfl : i = 0 := by omega
    obtain rfl : dir = "three/" := List.mem_singleton.1 there
    obtain rfl : shelfCatalog.models[0] = m := Option.some.inj model
    decide +kernel

/-- **A directory that is added can change the answer**: a model that comes earlier may be there. -/
theorem resolve_changed_by_added_directory :
    shelfEngine.ReadsContents ∧
    ((fresh shelfEngine.create shelfCatalog).resolve shelfEngine shelves .auto
      ["one/"]).1.toOption.map (fun c => (c.entry.model.name, c.dir)) = some ("b", "one/") ∧
    ((fresh shelfEngine.create shelfCatalog).resolve shelfEngine shelves .auto
      (["one/"] ++ ["two/"])).1.toOption.map (fun c => (c.entry.model.name, c.dir)) =
      some ("a", "two/") :=
  ⟨Scripted.readsContents _, by decide +kernel, by decide +kernel⟩

end Loading

end SynthBridge
