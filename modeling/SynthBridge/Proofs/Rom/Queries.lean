import SynthBridge.Proofs.Rom.Memory
import SynthBridge.Proofs.Rom.Resolve
import SynthBridge.Proofs.Rom.Survey

/-!
# Asking a catalog

Whether a model is present, which models are, to load one, to load the first that can be had, and
to list them all: whatever is asked of a catalog reads its memory and adds to it. On files that stay
as they are, and as long as everybody tells a file alike, the answers are those of a catalog that
remembers nothing, and the files of a model in a directory are looked at once
(`Catalog.answers_as_new`).
-/

namespace SynthBridge

variable {α σ : Type}

/-! ## Queries and answers -/

/-- Something that is asked of a catalog. It brings along what tells the files: an identifier, or an
engine in whatever state it is. -/
inductive Catalog.Query (α σ : Type)
  | present (identify : Identifier) (e : Catalog.Entry) (dir : String)
  | models (identify : Identifier) (dir : String)
  | load (E : Engine α σ) (s : σ) (e : Catalog.Entry) (dir : String)
  | resolve (E : Engine α σ) (s : σ) (selector : ModelSelector) (dirs : List String)
  | listing (identify : Identifier) (color : Bool) (selector : ModelSelector) (dirs : List String)
      (width : Nat)

/-- What an engine has come to, and all that was asked of it but to look at files. -/
structure Loading.Outcome (α σ : Type) where
  engine : σ
  calls : List (Call α)
  log : List (Log α)

inductive Catalog.Answer (α σ : Type)
  | present (there : Bool)
  | models (found : List Catalog.Entry)
  | loaded (all : Bool) (outcome : Loading.Outcome α σ)
  | resolved (found : Except Failure Catalog.Candidate) (outcome : Loading.Outcome α σ)
  | listing (text : String)

/-- An answer, the files that were looked at for it, and what is remembered then. -/
structure Catalog.Reply (α σ : Type) where
  answer : Catalog.Answer α σ
  looks : List Look
  inventory : Inventory

def Call.look? : Call α → Option Look
  | .identify path info => some ⟨path, info⟩
  | _ => none

/-- The looks at files among some calls. -/
def looksIn (calls : List (Call α)) : List Look := calls.filterMap Call.look?

def Loading.outcome (l : Loading α σ) : Loading.Outcome α σ :=
  ⟨l.engine, withoutLooks l.calls, l.log⟩

namespace Catalog

/-- Answers a query by what is remembered and by the files. -/
def ask (t : FileTree) (inv : Inventory) : Query α σ → Reply α σ
  | .present identify e dir =>
    let (there, looks, inventory) := inv.check identify t e dir
    ⟨.present there, looks, inventory⟩
  | .models identify dir =>
    let (found, looks, inventory) := inv.modelsIn identify t dir
    ⟨.models found, looks, inventory⟩
  | .load E s e dir =>
    let (all, l) := Loading.load E t { engine := s, inventory := inv } e dir
    ⟨.loaded all l.outcome, looksIn l.calls, l.inventory⟩
  | .resolve E s selector dirs =>
    let (found, l) := Loading.resolve E t { engine := s, inventory := inv } selector dirs
    ⟨.resolved found l.outcome, looksIn l.calls, l.inventory⟩
  | .listing identify color selector dirs width =>
    let (text, looks, inventory) := Listing.render color inv identify t selector dirs width
    ⟨.listing text, looks, inventory⟩

/-- The replies to queries that are asked one after the other. -/
def askAll (t : FileTree) (inv : Inventory) : List (Query α σ) → List (Reply α σ)
  | [] => []
  | q :: rest => ask t inv q :: askAll t (ask t inv q).inventory rest

/-- What is remembered after some queries. -/
def after (t : FileTree) (inv : Inventory) (qs : List (Query α σ)) : Inventory :=
  qs.foldl (fun inv q => (ask t inv q).inventory) inv

/-- A query is about models of the catalog, and tells files as `identify` does. -/
def Query.Fits (C : Catalog) (identify : Identifier) (t : FileTree) : Query α σ → Prop
  | .present identify' e _ => identify' t = identify t ∧ e ∈ C.entries
  | .models identify' _ => identify' t = identify t
  | .load E _ e _ => (∀ s, E.identify s t = identify t) ∧ e ∈ C.entries
  | .resolve E _ _ _ => ∀ s, E.identify s t = identify t
  | .listing identify' _ _ _ _ => identify' t = identify t

end Catalog

/-! ## The checks of a loading -/

@[simp]
theorem looksIn_append (calls more : List (Call α)) :
    looksIn (calls ++ more) = looksIn calls ++ looksIn more :=
  List.filterMap_append ..

@[simp]
theorem looksIn_looked (looks : List Look) :
    looksIn (Loading.looked looks : List (Call α)) = looks := by
  simp [looksIn, Loading.looked, Call.look?, Function.comp_def, List.filterMap_map]

theorem looksIn_discard : looksIn [(Call.discard : Call α)] = [] := rfl

namespace Loading

variable {E : Engine α σ} {t : FileTree} {identify : Identifier} {l l' l'' : Loading α σ}
  {e : Catalog.Entry} {c : Catalog.Candidate} {cs cs' : List Catalog.Candidate} {dir : String}
  {set : RomSet} {kind : RomKind}

/-- Some models were checked, one after the other, and nothing else was looked at. -/
structure Checks (identify : Identifier) (t : FileTree) (l l' : Loading α σ)
    (cs : List Catalog.Candidate) : Prop where
  looks : looksIn l'.calls = looksIn l.calls ++ (l.inventory.checkAll identify t cs).1
  inventory : l'.inventory = (l.inventory.checkAll identify t cs).2

theorem Checks.refl (l : Loading α σ) : Checks identify t l l [] where
  looks := (List.append_nil _).symm
  inventory := rfl

theorem Checks.trans (h : Checks identify t l l' cs) (h' : Checks identify t l' l'' cs') :
    Checks identify t l l'' (cs ++ cs') where
  looks := by
    rw [h'.looks, h.looks, h.inventory, Inventory.checkAll_append, List.append_assoc]
  inventory := by rw [h'.inventory, h.inventory, Inventory.checkAll_append]

theorem checks_check (identifies : ∀ s, E.identify s t = identify t) (l : Loading α σ)
    (e : Catalog.Entry) (dir : String) :
    Checks identify t l (l.check E t e dir).2 [⟨e, dir⟩] where
  looks := by
    rw [Inventory.checkAll_cons, ← Inventory.check_congr (identifies l.engine)]
    simp [Loading.check]
  inventory := by
    rw [Inventory.checkAll_cons, ← Inventory.check_congr (identifies l.engine)]
    rfl

theorem checks_loadRole : Checks identify t l (l.loadRole E t dir set kind).2 [] := by
  have whole : ∀ l : Loading α σ, looksIn (l.addWhole E t dir set).2.calls = looksIn l.calls := by
    intro l
    unfold addWhole
    split
    · simp [add, looksIn, Call.look?]
    · rfl
  have joined : ∀ l : Loading α σ,
      looksIn (l.joinHalves E t dir set).2.calls = looksIn l.calls := by
    intro l
    unfold joinHalves
    split
    · simp [merge, looksIn, Call.look?]
    · rfl
  refine ⟨?_, inventory_loadRole l⟩
  rw [Inventory.checkAll_nil, List.append_nil, loadRole_eq]
  simp only
  split
  · exact whole l
  · exact (joined _).trans (whole l)

theorem checks_load (identifies : ∀ s, E.identify s t = identify t) (l : Loading α σ)
    (e : Catalog.Entry) (dir : String) :
    Checks identify t l (l.load E t e dir).2 [⟨e, dir⟩] := by
  have checked := checks_check identifies l e dir
  rw [load_eq]
  simp only
  split
  · exact checked.trans (checks_loadRole.trans checks_loadRole)
  · exact checked

/-- The checks for one candidate: once more where it is loaded. -/
def candidateChecks (E : Engine α σ) (t : FileTree) (l : Loading α σ) (c : Catalog.Candidate) :
    List Catalog.Candidate :=
  if (l.check E t c.entry c.dir).1 then [c, c] else [c]

theorem checks_tryCandidate (identifies : ∀ s, E.identify s t = identify t) (l : Loading α σ)
    (c : Catalog.Candidate) :
    Checks identify t l (l.tryCandidate E t c).2 (l.candidateChecks E t c) := by
  have checked := checks_check identifies l c.entry c.dir
  have loaded := checked.trans (checks_load identifies _ c.entry c.dir)
  simp only [tryCandidate, candidateChecks]
  cases (l.check E t c.entry c.dir).1 with
  | false => exact checked
  | true =>
    simp only [Bool.not_true, Bool.false_eq_true, if_false, if_true]
    split
    · exact ⟨loaded.looks, loaded.inventory⟩
    · refine ⟨?_, loaded.inventory⟩
      rw [looksIn_append, looksIn_discard, List.append_nil]
      exact loaded.looks

/-- The checks of a search. -/
def searchChecks (E : Engine α σ) (t : FileTree) (l : Loading α σ) :
    List Catalog.Candidate → List Catalog.Candidate
  | [] => []
  | c :: rest =>
    let (loaded, l') := l.tryCandidate E t c
    l.candidateChecks E t c ++ if loaded then [] else l'.searchChecks E t rest

theorem checks_firstLoaded (identifies : ∀ s, E.identify s t = identify t) (l : Loading α σ)
    (cs : List Catalog.Candidate) :
    Checks identify t l (l.firstLoaded E t cs).2 (l.searchChecks E t cs) := by
  induction cs generalizing l with
  | nil => exact .refl l
  | cons c rest ih =>
    have tried := checks_tryCandidate identifies l c
    unfold firstLoaded searchChecks
    cases loaded : (l.tryCandidate E t c).1 with
    | true => simpa [loaded] using tried
    | false => simpa [loaded] using tried.trans (ih _)

theorem mem_of_mem_searchChecks (listed : c ∈ l.searchChecks E t cs) : c ∈ cs := by
  induction cs generalizing l with
  | nil => cases listed
  | cons c' rest ih =>
    rw [searchChecks, List.mem_append] at listed
    rcases listed with here | later
    · have same : c = c' := by
        unfold candidateChecks at here
        split at here <;> simpa using here
      exact same ▸ List.mem_cons_self
    · split at later
      · cases later
      · exact List.mem_cons_of_mem _ (ih later)

end Loading

/-! ## The checks of a query -/

namespace Catalog

variable {t : FileTree} {identify : Identifier} {inv inv' : Inventory} {C : Catalog}
  {c : Candidate} {q : Query α σ} {qs : List (Query α σ)}

/-- The models that are checked for a query, and where. -/
def Query.checks (t : FileTree) (inv : Inventory) : Query α σ → List Candidate
  | .present _ e dir => [⟨e, dir⟩]
  | .models _ dir => inv.catalog.entries.map (⟨·, dir⟩)
  | .load _ _ e dir => [⟨e, dir⟩]
  | .resolve E s selector dirs =>
    Loading.searchChecks E t { engine := s, inventory := inv }
      (inv.catalog.candidates selector dirs)
  | .listing identify _ _ dirs _ => Listing.checks inv identify t dirs []

/-- The checks for queries that are asked one after the other. -/
def checksOf (t : FileTree) (inv : Inventory) : List (Query α σ) → List Candidate
  | [] => []
  | q :: rest => q.checks t inv ++ checksOf t (ask t inv q).inventory rest

/-- **A query makes its checks** and looks at nothing else. -/
theorem ask_eq_checkAll (fits : q.Fits inv.catalog identify t) :
    ((ask t inv q).looks, (ask t inv q).inventory) = inv.checkAll identify t (q.checks t inv) := by
  cases q with
  | present identify' e dir =>
    rw [← Inventory.checkAll_congr fits.1]
    simp [ask, Query.checks, Inventory.checkAll_cons]
  | models identify' dir =>
    rw [← Inventory.checkAll_congr fits]
    exact Inventory.modelsIn_snd inv dir
  | load E s e dir =>
    obtain ⟨looks, inventory⟩ :=
      Loading.checks_load fits.1 { engine := s, inventory := inv } e dir
    exact Prod.ext looks inventory
  | resolve E s selector dirs =>
    obtain ⟨looks, inventory⟩ :=
      Loading.checks_firstLoaded fits { engine := s, inventory := inv }
        (inv.catalog.candidates selector dirs)
    simp only [ask, Loading.resolve_eq]
    exact Prod.ext looks inventory
  | listing identify' color selector dirs width =>
    rw [← Inventory.checkAll_congr fits]
    exact Listing.rows_snd inv dirs []

theorem Query.entry_mem_of_mem_checks (fits : q.Fits inv.catalog identify t)
    (listed : c ∈ q.checks t inv) : c.entry ∈ inv.catalog.entries := by
  cases q with
  | present identify' e dir =>
    obtain rfl := List.mem_singleton.1 listed
    exact fits.2
  | models identify' dir =>
    obtain ⟨e, known, rfl⟩ := List.mem_map.1 listed
    exact known
  | load E s e dir =>
    obtain rfl := List.mem_singleton.1 listed
    exact fits.2
  | resolve E s selector dirs =>
    exact Loading.entry_of_mem_candidates (Loading.mem_of_mem_searchChecks listed)
  | listing identify' color selector dirs width => exact Listing.entry_mem_of_mem_checks listed

/-- A query leaves the catalog as it is, and its memory truthful. -/
theorem ask_truthful (truthful : inv.Truthful identify t) (fits : q.Fits inv.catalog identify t) :
    (ask t inv q).inventory.catalog = inv.catalog ∧
      (ask t inv q).inventory.Truthful identify t := by
  have inventory := congrArg Prod.snd (ask_eq_checkAll fits)
  simp only at inventory
  rw [inventory]
  refine ⟨Inventory.catalog_checkAll, truthful.checkAll ?_⟩
  intro c listed
  exact Query.entry_mem_of_mem_checks fits listed

/-! ## What is remembered does not matter -/

/-- **The answer to a query is a matter of the files**, whatever is remembered. -/
theorem ask_answer (truthful : inv.Truthful identify t) (truthful' : inv'.Truthful identify t)
    (same : inv'.catalog = inv.catalog) (fits : q.Fits inv.catalog identify t) :
    (ask t inv' q).answer = (ask t inv q).answer := by
  cases q with
  | present identify' e dir =>
    obtain ⟨tells, known⟩ := fits
    have known' : e ∈ inv'.catalog.entries := same ▸ known
    simp only [ask, (truthful.congr tells).check_fst known,
      (truthful'.congr tells).check_fst known']
  | models identify' dir =>
    obtain ⟨found, -⟩ := (truthful.congr fits).modelsIn dir
    obtain ⟨found', -⟩ := (truthful'.congr fits).modelsIn dir
    simp only [ask, found, found', same]
  | load E s e dir =>
    obtain ⟨tells, known⟩ := fits
    have start : Loading.Alike (α := α) { engine := s, inventory := inv }
        { engine := s, inventory := inv' } := ⟨rfl, same, rfl, rfl⟩
    obtain ⟨answer, engine, -, calls, log⟩ := start.load tells truthful truthful' known dir
    simp only [ask, Loading.outcome, answer, engine, calls, log]
  | resolve E s selector dirs =>
    have start : Loading.Alike (α := α) { engine := s, inventory := inv }
        { engine := s, inventory := inv' } := ⟨rfl, same, rfl, rfl⟩
    obtain ⟨answer, engine, -, calls, log⟩ := start.firstLoaded fits truthful truthful'
      (fun c (listed : c ∈ inv.catalog.candidates selector dirs) =>
        Loading.entry_of_mem_candidates listed)
    simp only [ask, Loading.outcome, Loading.resolve_eq, same, answer, engine, calls, log]
  | listing identify' color selector dirs width =>
    have rows := Listing.rows_of_truthful (truthful.congr fits) dirs []
    have rows' := Listing.rows_of_truthful (truthful'.congr fits) dirs []
    simp only [ask, Listing.render, rows, rows', Listing.catalog_rows, same]

/-! ## Queries one after the other -/

/-- What is looked at and remembered for some queries comes of their checks alone. -/
theorem askAll_eq_checkAll (truthful : inv.Truthful identify t)
    (fits : ∀ q ∈ qs, q.Fits inv.catalog identify t) :
    ((askAll t inv qs).flatMap Reply.looks, after t inv qs) =
      inv.checkAll identify t (checksOf t inv qs) := by
  induction qs generalizing inv with
  | nil => rfl
  | cons q rest ih =>
    obtain ⟨here, others⟩ := List.forall_mem_cons.1 fits
    obtain ⟨catalog, after⟩ := ask_truthful truthful here
    have first := ask_eq_checkAll here
    have later := ih after (by simpa only [catalog] using others)
    rw [Prod.ext_iff] at first later
    obtain ⟨looks, inventory⟩ := first
    simp only at looks inventory
    rw [checksOf, Inventory.checkAll_append, ← inventory, ← looks]
    exact Prod.ext (congrArg ((ask t inv q).looks ++ ·) later.1) later.2

theorem truthful_after (truthful : inv.Truthful identify t)
    (fits : ∀ q ∈ qs, q.Fits inv.catalog identify t) :
    (after t inv qs).catalog = inv.catalog ∧ (after t inv qs).Truthful identify t := by
  induction qs generalizing inv with
  | nil => exact ⟨rfl, truthful⟩
  | cons q rest ih =>
    obtain ⟨here, others⟩ := List.forall_mem_cons.1 fits
    obtain ⟨catalog, after⟩ := ask_truthful truthful here
    rw [← catalog] at others ⊢
    exact ih after others

theorem askAll_answer (truthful : inv.Truthful identify t) (truthful' : inv'.Truthful identify t)
    (same : inv'.catalog = inv.catalog) (fits : ∀ q ∈ qs, q.Fits inv.catalog identify t) :
    (askAll t inv' qs).map Reply.answer = qs.map fun q => (ask t inv q).answer := by
  induction qs generalizing inv' with
  | nil => rfl
  | cons q rest ih =>
    obtain ⟨here, others⟩ := List.forall_mem_cons.1 fits
    obtain ⟨catalog, after⟩ := ask_truthful truthful' (same ▸ here)
    rw [askAll, List.map_cons, List.map_cons, ask_answer truthful truthful' same here,
      ih after (catalog.trans same) others]

/-- **A memory is not noticed.** However many queries are asked of a catalog one after the other, on
files that stay as they are and by identifiers and engines that all tell a file alike:

* each answer is the one of a new catalog, and where models are loaded, so is all that is asked of
  the engine but looks at files, and what becomes of it;
* the queries make the checks `checksOf`, and of several checks of a model in a directory only the
  first looks at the files;
* so a listing in between never changes what a search loads. -/
theorem answers_as_new (C : Catalog) (identify : Identifier) (t : FileTree)
    (qs : List (Query α σ)) (fits : ∀ q ∈ qs, q.Fits C identify t) :
    (askAll t { catalog := C } qs).map Reply.answer =
        qs.map (fun q => (ask t { catalog := C } q).answer) ∧
      after t { catalog := C } qs =
        (Inventory.checkAll { catalog := C } identify t (checksOf t { catalog := C } qs)).2 ∧
      (askAll t { catalog := C } qs).flatMap Reply.looks =
        ((checksOf t { catalog := C } qs).eraseDupsBy fun c c' => c.key == c'.key).flatMap
          (Presence.looksAt identify t) ∧
      ∀ (identify' : Identifier) (color : Bool) (selector' : ModelSelector) (dirs' : List String)
        (width : Nat) (E : Engine α σ) (s : σ) (selector : ModelSelector) (dirs : List String),
        identify' t = identify t → (∀ s, E.identify s t = identify t) →
        let listed := (Listing.render color (after t { catalog := C } qs) identify' t selector'
          dirs' width).2.2
        (Loading.resolve E t { engine := s, inventory := listed } selector dirs).1 =
            (Loading.resolve E t (Loading.fresh s C) selector dirs).1 ∧
          (Loading.resolve E t { engine := s, inventory := listed } selector dirs).2.outcome =
            (Loading.resolve E t (Loading.fresh s C) selector dirs).2.outcome := by
  have new : Inventory.Truthful { catalog := C } identify t :=
    Inventory.truthful_of_known_eq_nil rfl
  have run := askAll_eq_checkAll new fits
  refine ⟨askAll_answer new new rfl fits, congrArg Prod.snd run, ?_, ?_⟩
  · have looks := congrArg Prod.fst run
    rw [Inventory.looks_checkAll, List.filter_eq_self.2 (by simp [Inventory.knows])] at looks
    exact looks
  · intro identify' color selector' dirs' width E s selector dirs tells engineTells listed
    obtain ⟨catalog, truthful⟩ := truthful_after new fits
    have fitsListing : Query.Fits (α := α) (σ := σ) (after t { catalog := C } qs).catalog identify t
        (.listing identify' color selector' dirs' width) := tells
    obtain ⟨catalog', truthful'⟩ := ask_truthful truthful fitsListing
    have fitsSearch : Query.Fits C identify t (.resolve E s selector dirs) := engineTells
    have answer := ask_answer new truthful' (catalog'.trans catalog) fitsSearch
    simp only [ask, Answer.resolved.injEq] at answer
    exact answer

/-- A listing, a search for the second model, and a listing once more. -/
def shelfQueries : List (Query Extended (Scripted.State Extended)) :=
  [.listing Loading.shelfEngine.identifier false .auto ["one/", "two/", "one/"] 80,
    .resolve Loading.shelfEngine Loading.shelfEngine.create (.named "b") ["two/", "one/"],
    .listing Loading.shelfEngine.identifier false (.named "a") ["two/"] 80]

/-- On the shelves each of the four files is looked at once. -/
theorem answers_as_new_on_shelves :
    (∀ q ∈ shelfQueries, q.Fits Loading.shelfCatalog Loading.shelfEngine.identifier
      Loading.shelves) ∧
    (askAll Loading.shelves { catalog := Loading.shelfCatalog } shelfQueries).map Reply.answer =
      shelfQueries.map (fun q =>
        (ask Loading.shelves { catalog := Loading.shelfCatalog } q).answer) ∧
    ((askAll Loading.shelves { catalog := Loading.shelfCatalog } shelfQueries).flatMap
      Reply.looks).map Look.path = ["one/pb.bin", "one/cb.bin", "two/pa.bin", "two/ca.bin"] := by
  have reads : Loading.shelfEngine.ReadsContents := Scripted.readsContents _
  have fits : ∀ q ∈ shelfQueries, q.Fits Loading.shelfCatalog Loading.shelfEngine.identifier
      Loading.shelves := by
    intro q listed
    simp only [shelfQueries, List.mem_cons, List.not_mem_nil, or_false] at listed
    rcases listed with rfl | rfl | rfl
    · rfl
    · intro s
      rw [reads.identifier_eq]
    · rfl
  obtain ⟨answers, -, looks, -⟩ := answers_as_new Loading.shelfCatalog
    Loading.shelfEngine.identifier Loading.shelves shelfQueries fits
  refine ⟨fits, answers, ?_⟩
  rw [looks]
  decide +kernel

end Catalog

end SynthBridge
