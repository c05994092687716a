import Mathlib.Data.List.Nodup
import SynthBridge.Proofs.Bridge.Wholeness
import SynthBridge.Proofs.Engine.Life
import SynthBridge.Proofs.Rom.Loading

/-!
# The engines of a bridge

Every engine that a bridge has ever made is a listing's or was made to open a session. The openings
are registered (`Bridge.register`) with the engine of each and with how they ended, and
`Bridge.Lawful` says for every point at which the controller may be which calls each engine has got:
those of an opening that is under way are told by its stage, those of the others by how they ended.
Every step of a bridge keeps this (`Bridge.Lawful.step`).
-/

namespace SynthBridge

variable {α σ : Type}

/-! ## What is asked while ROMs are loaded -/

namespace Loading

variable {E : Engine α σ} {t : FileTree} {l l' l'' : Loading α σ} {c : Catalog.Candidate}

/-- The engine was asked for nothing but looking at ROM files, taking them and forgetting them. -/
def Asks (l l' : Loading α σ) : Prop :=
  ∃ more, l'.calls = l.calls ++ more ∧ ∀ c ∈ more, c.isLoading = true

theorem Asks.refl (l : Loading α σ) : l.Asks l := ⟨[], (List.append_nil _).symm, nofun⟩

theorem Asks.trans (h : l.Asks l') (h' : l'.Asks l'') : l.Asks l'' := by
  obtain ⟨first, calls, loading⟩ := h
  obtain ⟨second, calls', loading'⟩ := h'
  refine ⟨first ++ second, by rw [calls', calls, List.append_assoc], fun c mem => ?_⟩
  rcases List.mem_append.1 mem with old | new
  · exact loading c old
  · exact loading' c new

/-- One more call. -/
theorem Asks.one {c : Call α} (loading : c.isLoading = true) (calls : l'.calls = l.calls ++ [c]) :
    l.Asks l' :=
  ⟨[c], calls, by simpa using loading⟩

theorem isIdentify_of_mem_looked {looks : List Look} {c : Call α} (mem : c ∈ looked looks) :
    c.isIdentify = true := by
  obtain ⟨look, -, rfl⟩ := List.mem_map.1 mem
  rfl

theorem asks_check (E : Engine α σ) (t : FileTree) (l : Loading α σ) (e : Catalog.Entry)
    (dir : String) : l.Asks (l.check E t e dir).2 :=
  ⟨_, rfl, fun _ mem => Call.isLoading_of_isIdentify (isIdentify_of_mem_looked mem)⟩

theorem asks_loadRole (l : Loading α σ) (dir : String) (set : RomSet) (kind : RomKind) :
    l.Asks (l.loadRole E t dir set kind).2 := by
  have whole : l.Asks (l.addWhole E t dir set).2 := by
    unfold addWhole
    split
    · exact .one rfl rfl
    · exact .refl l
  have joined : ∀ l : Loading α σ, l.Asks (l.joinHalves E t dir set).2 := by
    intro l
    unfold joinHalves
    split
    · exact .one rfl rfl
    · exact .refl l
  rw [loadRole_eq]
  simp only
  split
  · exact whole
  · exact whole.trans (joined _)

/-- **While a candidate is tried** files are looked at, offered and forgotten, and nothing else. -/
theorem asks_tryCandidate : l.Asks (l.tryCandidate E t c).2 := by
  have checked := asks_check E t l c.entry c.dir
  have loaded := (checked.trans (asks_loadRole (E := E) (t := t) _ c.dir c.entry.model.pcm
    .pcm)).trans (asks_loadRole (E := E) (t := t) _ c.dir c.entry.model.control .control)
  rw [tryCandidate_eq]
  simp only
  split
  · exact checked
  · split
    · exact loaded
    · exact loaded.trans (.one rfl rfl)

end Loading

namespace Bridge

/-! ## Openings -/

/-- An opening that has begun: the number of its engine, and how it ended once it has. -/
structure Attempt where
  engine : Nat
  outcome : Option Outcome := none
  deriving DecidableEq

/-- The openings so far, the latest first. One begins when its engine is made, and it ends when the
controller is done with it. -/
def register (as : List Attempt) (b b' : Bridge α σ) : List Attempt :=
  match b.controller, b'.controller, as with
  | .opening _ .create, .opening _ (.resolve i _), as => { engine := i.number } :: as
  | .opening .., .idle, a :: rest => { a with outcome := b'.outcome } :: rest
  | _, _, as => as

/-- The opening under way that has an engine. -/
def Controller.underway : Controller σ → Option (Opening σ)
  | .opening _ .create => none
  | .opening _ stage => some stage
  | _ => none

section Register

variable {as : List Attempt} {b b' : Bridge α σ} {rate rate' : UInt32} {stage stage' : Opening σ}

theorem register_of_same (same : b'.controller = b.controller) : register as b b' = as := by
  unfold register
  rw [same]
  split
  · rename_i here there
    simp [here] at there
  · rename_i here there
    simp [here] at there
  · rfl

theorem register_of_not_opening (idle : ∀ rate stage, b.controller ≠ .opening rate stage) :
    register as b b' = as := by
  unfold register
  split
  · rename_i here _
    exact absurd here (idle _ _)
  · rename_i here _
    exact absurd here (idle _ _)
  · rfl

theorem register_of_opening (here : b.controller = .opening rate stage)
    (begun : stage ≠ .create) (there : b'.controller = .opening rate' stage') :
    register as b b' = as := by
  unfold register
  rw [here, there]
  split
  · rename_i same _
    cases same
    exact absurd rfl begun
  · rename_i _ same
    cases same
  · rfl

/-- An opening begins. -/
theorem register_of_create {i : Instance σ} {candidates : List Catalog.Candidate}
    (here : b.controller = .opening rate .create)
    (there : b'.controller = .opening rate' (.resolve i candidates)) :
    register as b b' = { engine := i.number } :: as := by
  simp only [register, here, there]

/-- An opening ends: it is the latest. -/
theorem register_of_end {a : Attempt} (here : b.controller = .opening rate stage)
    (idle : b'.controller = .idle) :
    register (a :: as) b b' = { a with outcome := b'.outcome } :: as := by
  simp only [register, here, idle]

end Register

/-! ## What the calls of an engine come to -/

/-- Which calls the engine of an opening has got that ended so. That of an open session is in the
slot as long as it has not been closed. -/
def Outcome.Leaves (informs : Bool) (engaged : Prop) (calls : List (Call α)) : Outcome → Prop
  | .opened =>
    (engaged ∧ Engine.InUse informs calls) ∨ (¬engaged ∧ Engine.Life informs .closed calls)
  | .failed (.romsNotFound ..) => Engine.Life informs .loading calls
  | .failed (.engineRefused _) => Engine.Life informs .dismissed calls
  | .failed (.threadRefused _) => Engine.Life informs .closed calls
  | .panicked _ => Engine.Life informs .started calls
  | _ => False

/-- Which calls the engine of an opening has got that has come so far. -/
def Opening.Drives (informs : Bool) (slot : Option Nat) (number : Nat) (calls : List (Call α)) :
    Opening σ → Prop
  | .create => False
  | .resolve i _ | .describe i _ => i.number = number ∧ Engine.Life informs .loading calls
  | .addChannel i _ | .listen i _ | .configure i _ =>
    i.number = number ∧ Engine.Life informs .announced calls
  | .start i _ => i.number = number ∧ Engine.Life informs .configured calls
  | .refuse i _ _ => i.number = number ∧ Engine.Life informs .refused calls
  | .leave _ outcome => outcome ≠ .opened ∧ outcome.Leaves informs (slot = some number) calls
  | .checkSizes i _ | .fillEngine i _ _ => i.number = number ∧ Engine.Life informs .started calls
  | .withdrawPipeline .. => Engine.Life informs .closed calls
  | .fillPipeline .. | .spawn _ | .withdrawEngine .. | .makePlayer _ | .prime .. | .fillPlayer ..
  | .enable _ | .finish _ => slot = some number ∧ Engine.InUse informs calls

/-- Once the engine is in its slot, it is in use. -/
theorem Opening.drives_of_fitting {stage : Opening σ} (late : stage.fitting.engine = true)
    {informs : Bool} {slot : Option Nat} {number : Nat} {calls : List (Call α)} :
    stage.Drives informs slot number calls ↔ slot = some number ∧ Engine.InUse informs calls := by
  cases stage <;> first | rfl | cases late

/-- The engines of a bridge, by number: how many were made, what was asked of them, which is in the
slot, and which are those of the listings under way; and whether events of level info are reported,
which is why an engine is described. -/
structure Roll (α : Type) where
  informs : Bool
  made : Nat
  calls : List (Nat × Call α)
  inSlot : Option Nat
  listing : List Nat

def roll (b : Bridge α σ) : Roll α :=
  ⟨b.setup.informs, b.made, b.calls, b.inSlot, b.surveys.map fun s => s.engine.number⟩

/-- The engine of an opening that has ended got the calls that it should. -/
def Attempt.Ended (x : Roll α) (a : Attempt) : Prop :=
  ∃ outcome, a.outcome = some outcome ∧
    outcome.Leaves x.informs (x.inSlot = some a.engine) (callsTo a.engine x.calls)

/-- All openings have ended but the one under way, which is the latest. -/
def Follow (x : Roll α) (as : List Attempt) : Option (Opening σ) → Prop
  | none => ∀ a ∈ as, a.Ended x
  | some stage => ∃ a rest, as = a :: rest ∧ a.outcome = none ∧
    stage.Drives x.informs x.inSlot a.engine (callsTo a.engine x.calls) ∧ ∀ a ∈ rest, a.Ended x

/-- Every engine got the calls that it should. -/
structure Roll.Lawful (x : Roll α) (stage? : Option (Opening σ)) (as : List Attempt) : Prop where
  numbered : ∀ p ∈ x.calls, p.1 < x.made
  made : ∀ a ∈ as, a.engine < x.made
  distinct : (as.map Attempt.engine).Nodup
  listing : ∀ n ∈ x.listing, n < x.made ∧ n ∉ as.map Attempt.engine
  /-- An engine that no opening made is a listing's. -/
  listed : ∀ n < x.made, n ∉ as.map Attempt.engine → Engine.Lists (callsTo n x.calls)
  follow : Follow x as stage?
  slot : ∀ n, x.inSlot = some n →
    ∃ a ∈ as, a.engine = n ∧ (a.outcome = none ∨ a.outcome = some .opened)

/-- The same of a bridge. -/
def Lawful (b : Bridge α σ) (as : List Attempt) : Prop :=
  b.roll.Lawful b.controller.underway as

theorem lawful_new [Amplitude α] (setup : Setup) (catalog : Catalog) :
    (Bridge.new setup catalog : Bridge α σ).Lawful [] :=
  ⟨nofun, nofun, List.nodup_nil, nofun, nofun, nofun, nofun⟩

/-! ## Kinds of steps -/

/-- The roll when more has been asked of one engine. -/
def Roll.asked (x : Roll α) (number : Nat) (more : List (Call α)) : Roll α :=
  { x with calls := x.calls ++ more.map (number, ·) }

section Kinds

variable {x x' : Roll α} {stage? : Option (Opening σ)} {stage stage' : Opening σ} {a : Attempt}
  {as : List Attempt} {number : Nat} {more : List (Call α)} {outcome : Outcome}

/-- Nothing is to be said anew of an engine that is as much in the slot as before and has got no
other calls. -/
theorem Attempt.Ended.congr (h : a.Ended x) (informs : x'.informs = x.informs)
    (slot : x'.inSlot = some a.engine ↔ x.inSlot = some a.engine)
    (calls : callsTo a.engine x'.calls = callsTo a.engine x.calls) : a.Ended x' := by
  obtain ⟨outcome, ended, leaves⟩ := h
  refine ⟨outcome, ended, ?_⟩
  rwa [calls, informs, propext slot]

/-- What is asked of one engine is nothing to an opening that had another. -/
theorem Attempt.Ended.aside (h : a.Ended x) (ne : number ≠ a.engine) :
    a.Ended (x.asked number more) :=
  h.congr rfl Iff.rfl (callsTo_append_of_ne ne more)

/-- A new engine's first call is none of an old one's. -/
theorem Roll.callsTo_asked_made (old : number < x.made) :
    callsTo number (x.asked x.made more).calls = callsTo number x.calls := by
  have ne : x.made ≠ number := by omega
  rw [Roll.asked, callsTo_append_of_ne ne]

namespace Roll.Lawful

theorem eq_of_engine {a' : Attempt} (h : x.Lawful stage? as) (mem : a ∈ as) (mem' : a' ∈ as)
    (same : a.engine = a'.engine) : a = a' :=
  List.inj_on_of_nodup_map h.distinct mem mem' same

/-- The latest opening has an engine of its own. -/
theorem ne_of_mem_rest {rest : List Attempt} {a' : Attempt}
    (h : x.Lawful stage? (a :: rest)) (mem : a' ∈ rest) : a.engine ≠ a'.engine := by
  have distinct := h.distinct
  rw [List.map_cons, List.nodup_cons] at distinct
  intro same
  exact distinct.1 (List.mem_map.2 ⟨a', mem, same.symm⟩)

/-- The calls of an engine are numbered below those that are still to be made. -/
theorem asked_numbered (h : x.Lawful stage? as) (made : number < x.made) :
    ∀ p ∈ (x.asked number more).calls, p.1 < x.made := by
  intro p mem
  rcases List.mem_append.1 mem with old | new
  · exact h.numbered p old
  · obtain ⟨c, -, rfl⟩ := List.mem_map.1 new
    exact made

/-- What is asked of the engine of an opening is nothing to those of listings. -/
theorem asked_listed (h : x.Lawful stage? as) (mem : a ∈ as) :
    ∀ n < x.made, n ∉ as.map Attempt.engine →
      Engine.Lists (callsTo n (x.asked a.engine more).calls) := by
  intro n made other
  have ne : a.engine ≠ n := by
    rintro rfl
    exact other (List.mem_map_of_mem mem)
  rw [Roll.asked, callsTo_append_of_ne ne]
  exact h.listed n made other

/-- An opening whose engine is in the slot, and that has ended, has opened it. -/
theorem opened_of_slot (h : x.Lawful stage? as) (mem : a ∈ as) (here : x.inSlot = some a.engine)
    (ended : a.outcome = some outcome) : outcome = .opened := by
  obtain ⟨a', mem', same, state⟩ := h.slot _ here
  obtain rfl : a' = a := h.eq_of_engine mem' mem same
  rw [ended] at state
  rcases state with none | opened
  · cases none
  · exact Option.some.inj opened

/-- The controller goes on with an opening without asking its engine for anything. -/
theorem goOn (h : x.Lawful (some stage) as)
    (drives : ∀ number (calls : List (Call α)), stage.Drives x.informs x.inSlot number calls →
      stage'.Drives x.informs x.inSlot number calls) : x.Lawful (some stage') as := by
  obtain ⟨a, rest, rfl, none, drive, ended⟩ := h.follow
  exact { h with follow := ⟨a, rest, rfl, none, drives _ _ drive, ended⟩ }

/-- **The controller goes on with an opening** and asks its engine for something. -/
theorem ask (h : x.Lawful (some stage) as)
    (drives : ∀ n calls, stage.Drives x.informs x.inSlot n calls →
      number = n ∧ stage'.Drives x.informs x.inSlot n (calls ++ more)) :
    (x.asked number more).Lawful (some stage') as := by
  obtain ⟨a, rest, rfl, none, drive, ended⟩ := h.follow
  obtain ⟨rfl, next⟩ := drives _ _ drive
  refine ⟨h.asked_numbered (h.made a List.mem_cons_self), h.made, h.distinct, h.listing,
    h.asked_listed List.mem_cons_self, ?_, h.slot⟩
  refine ⟨a, rest, rfl, none, ?_, fun a' mem => (ended a' mem).aside (h.ne_of_mem_rest mem)⟩
  rw [Roll.asked, callsTo_append, callsTo_map_self]
  exact next

/-- **Something is asked of the engine in the slot**, which is at work. While a session is being
opened, that is only once its own engine is in the slot. -/
theorem play (h : x.Lawful stage? as) (here : x.inSlot = some number)
    (late : ∀ stage, stage? = some stage → stage.fitting.engine = true)
    (playing : ∀ c ∈ more, c.isPlaying = true) : (x.asked number more).Lawful stage? as := by
  obtain ⟨a, mem, rfl, -⟩ := h.slot _ here
  have ended : ∀ a' ∈ as, a'.Ended x → a'.Ended (x.asked a.engine more) := by
    intro a' mem' before
    by_cases ne : a.engine = a'.engine
    · obtain rfl : a = a' := h.eq_of_engine mem mem' ne
      obtain ⟨outcome, done, leaves⟩ := before
      obtain rfl := h.opened_of_slot mem here done
      refine ⟨.opened, done, .inl ⟨here, ?_⟩⟩
      rw [Roll.asked, callsTo_append, callsTo_map_self]
      exact (leaves.resolve_right fun out => out.1 here).2.plays playing
    · exact before.aside ne
  refine ⟨h.asked_numbered (h.made a mem), h.made, h.distinct, h.listing, h.asked_listed mem, ?_,
    h.slot⟩
  have follow := h.follow
  cases stage? with
  | none => exact fun a' mem' => ended a' mem' (follow a' mem')
  | some stage =>
    obtain ⟨first, rest, rfl, none, drive, others⟩ := follow
    have others' := fun a' mem' => ended a' (List.mem_cons_of_mem _ mem') (others a' mem')
    have isLate := late stage rfl
    rw [Opening.drives_of_fitting isLate] at drive
    obtain ⟨there, inUse⟩ := drive
    have same : a.engine = first.engine := Option.some.inj (here.symm.trans there)
    refine ⟨first, rest, rfl, none, ?_, others'⟩
    rw [Opening.drives_of_fitting isLate, same, Roll.asked, callsTo_append, callsTo_map_self]
    exact ⟨there, inUse.plays playing⟩

/-- A listing looks at files. -/
theorem look (h : x.Lawful stage? as) (mem : number ∈ x.listing)
    (looks : ∀ c ∈ more, c.isIdentify = true) : (x.asked number more).Lawful stage? as := by
  obtain ⟨made, other⟩ := h.listing _ mem
  have ne : ∀ a ∈ as, number ≠ a.engine := by
    rintro a there rfl
    exact other (List.mem_map_of_mem there)
  refine ⟨h.asked_numbered made, h.made, h.distinct, h.listing, ?_, ?_, h.slot⟩
  · intro n made other
    rw [Roll.asked, callsTo_append]
    by_cases same : number = n
    · subst same
      rw [callsTo_map_self]
      exact (h.listed _ made other).look looks
    · rw [callsTo_map_of_ne same, List.append_nil]
      exact h.listed n made other
  · have follow := h.follow
    cases stage? with
    | none => exact fun a mem => (follow a mem).aside (ne a mem)
    | some stage =>
      obtain ⟨first, rest, rfl, none, drive, others⟩ := follow
      refine ⟨first, rest, rfl, none, ?_, fun a mem =>
        (others a mem).aside (ne a (List.mem_cons_of_mem _ mem))⟩
      rw [Roll.asked, callsTo_append_of_ne (ne first List.mem_cons_self)]
      exact drive

/-- A listing may be over. -/
theorem mono (h : x.Lawful stage? as) {listing : List Nat} (fewer : listing ⊆ x.listing) :
    Roll.Lawful { x with listing } stage? as :=
  { h with
    listing := fun n mem => h.listing n (fewer mem)
    follow := by
      have follow := h.follow
      cases stage? with
      | none => exact follow
      | some stage => exact follow }

/-- The number of the next engine is nobody's. -/
theorem unknown_made (h : x.Lawful stage? as) : x.made ∉ as.map Attempt.engine := by
  intro known
  obtain ⟨a, mem, same⟩ := List.mem_map.1 known
  have below := h.made a mem
  omega

theorem made_calls (h : x.Lawful stage? as) :
    callsTo x.made (x.asked x.made [.create]).calls = [.create] := by
  rw [Roll.asked, callsTo_append, callsTo_map_self, callsTo_eq_nil h.numbered (Nat.le_refl _),
    List.nil_append]

/-- A listing gets an engine of its own. -/
theorem list (h : x.Lawful stage? as) :
    Roll.Lawful { x.asked x.made [.create] with
      made := x.made + 1, listing := x.listing ++ [x.made] } stage? as := by
  refine ⟨?_, ?_, h.distinct, ?_, ?_, ?_, h.slot⟩
  · intro p mem
    rcases List.mem_append.1 mem with old | new
    · exact Nat.lt_succ_of_lt (h.numbered p old)
    · rw [List.mem_singleton.1 new]
      exact Nat.lt_succ_self _
  · exact fun a mem => Nat.lt_succ_of_lt (h.made a mem)
  · intro n mem
    rcases List.mem_append.1 mem with old | new
    · obtain ⟨below, other⟩ := h.listing n old
      exact ⟨Nat.lt_succ_of_lt below, other⟩
    · rw [List.mem_singleton.1 new]
      exact ⟨Nat.lt_succ_self _, h.unknown_made⟩
  · intro n below other
    rcases Nat.lt_succ_iff_lt_or_eq.1 below with old | rfl
    · rw [Roll.callsTo_asked_made old]
      exact h.listed n old other
    · rw [h.made_calls]
      exact Engine.lists_create
  · have same : ∀ a ∈ as, callsTo a.engine (x.asked x.made [.create]).calls =
        callsTo a.engine x.calls := fun a mem =>
          Roll.callsTo_asked_made (h.made a mem)
    have follow := h.follow
    cases stage? with
    | none => exact fun a mem => (follow a mem).congr rfl Iff.rfl (same a mem)
    | some stage =>
      obtain ⟨first, rest, rfl, none, drive, others⟩ := follow
      refine ⟨first, rest, rfl, none, ?_, fun a mem =>
        (others a mem).congr rfl Iff.rfl (same a (List.mem_cons_of_mem _ mem))⟩
      rw [same first List.mem_cons_self]
      exact drive

/-- **An opening begins** with an engine of its own. -/
theorem enter (h : x.Lawful (none : Option (Opening σ)) as) {i : Instance σ}
    {candidates : List Catalog.Candidate} (number : i.number = x.made) :
    Roll.Lawful { x.asked x.made [.create] with made := x.made + 1 }
      (some (Opening.resolve i candidates)) ({ engine := x.made } :: as) := by
  have same : ∀ a ∈ as, callsTo a.engine (x.asked x.made [.create]).calls =
      callsTo a.engine x.calls := fun a mem =>
          Roll.callsTo_asked_made (h.made a mem)
  refine ⟨?_, ?_, ?_, ?_, ?_, ?_, ?_⟩
  · intro p mem
    rcases List.mem_append.1 mem with old | new
    · exact Nat.lt_succ_of_lt (h.numbered p old)
    · rw [List.mem_singleton.1 new]
      exact Nat.lt_succ_self _
  · intro a mem
    rcases List.mem_cons.1 mem with rfl | old
    · exact Nat.lt_succ_self _
    · exact Nat.lt_succ_of_lt (h.made a old)
  · rw [List.map_cons]
    exact List.nodup_cons.2 ⟨h.unknown_made, h.distinct⟩
  · intro n mem
    obtain ⟨below, other⟩ := h.listing n mem
    refine ⟨Nat.lt_succ_of_lt below, fun known => ?_⟩
    rcases List.mem_cons.1 known with rfl | old
    · exact absurd below (Nat.lt_irrefl _)
    · exact other old
  · intro n below other
    obtain ⟨new, other⟩ := not_or.1 (mt List.mem_cons.2 other)
    have old : n < x.made := by
      rcases Nat.lt_succ_iff_lt_or_eq.1 below with old | same
      · exact old
      · exact absurd same new
    rw [Roll.callsTo_asked_made old]
    exact h.listed n old other
  · refine ⟨_, as, rfl, rfl, ⟨number, ?_⟩, fun a mem =>
      (h.follow a mem).congr rfl Iff.rfl (same a mem)⟩
    rw [h.made_calls]
    exact .create
  · intro n here
    obtain ⟨a, mem, state⟩ := h.slot n here
    exact ⟨a, List.mem_cons_of_mem _ mem, state⟩

/-- **An opening ends.** Where it fails, there is no engine in the slot. -/
theorem finish {first : Attempt} {rest : List Attempt}
    (h : x.Lawful (some stage) (first :: rest))
    (leaves : ∀ number (calls : List (Call α)), stage.Drives x.informs x.inSlot number calls →
      outcome.Leaves x.informs (x.inSlot = some number) calls)
    (slot : x.inSlot = none ∨ outcome = .opened) :
    x.Lawful (none : Option (Opening σ)) ({ first with outcome := some outcome } :: rest) := by
  obtain ⟨a, rest, same, none, drive, others⟩ := h.follow
  obtain ⟨rfl, rfl⟩ := List.cons.inj same
  refine ⟨h.numbered, ?_, h.distinct, h.listing, h.listed, ?_, ?_⟩
  · intro a mem
    rcases List.mem_cons.1 mem with rfl | old
    · exact h.made first List.mem_cons_self
    · exact h.made a (List.mem_cons_of_mem _ old)
  · intro a mem
    rcases List.mem_cons.1 mem with rfl | old
    · exact ⟨outcome, rfl, leaves _ _ drive⟩
    · exact others a old
  · intro n here
    obtain ⟨a, mem, number, state⟩ := h.slot n here
    rcases List.mem_cons.1 mem with rfl | old
    · refine ⟨_, List.mem_cons_self, number, .inr ?_⟩
      rcases slot with empty | rfl
      · cases empty.symm.trans here
      · rfl
    · exact ⟨a, List.mem_cons_of_mem _ old, number, state⟩

/-- **The engine is put into its slot.** -/
theorem fill {i : Instance σ} {s : Session} {sizes : Sizes}
    (h : x.Lawful (some (Opening.fillEngine i s sizes)) as) (empty : x.inSlot = none) :
    Roll.Lawful { x with inSlot := some i.number } (some (Opening.fillPipeline s sizes : Opening σ))
      as := by
  obtain ⟨first, rest, rfl, none, ⟨number, started⟩, others⟩ := h.follow
  refine { h with follow := ?_, slot := ?_ }
  · refine ⟨first, rest, rfl, none, ⟨congrArg some number, .started, rfl, started⟩, ?_⟩
    intro a mem
    have ne : i.number ≠ a.engine := by
      rw [number]
      exact h.ne_of_mem_rest mem
    exact (others a mem).congr rfl (by simp [empty, ne]) rfl
  · rintro n here
    obtain rfl := Option.some.inj here
    exact ⟨first, List.mem_cons_self, number.symm, .inl none⟩

/-- **The engine is taken out of its slot and closed**, after all openings have ended. -/
theorem retire (h : x.Lawful (none : Option (Opening σ)) as) (here : x.inSlot = some number) :
    Roll.Lawful { x.asked number [.close] with inSlot := none } (none : Option (Opening σ)) as := by
  obtain ⟨a, mem, rfl, -⟩ := h.slot _ here
  refine ⟨h.asked_numbered (h.made a mem), h.made, h.distinct, h.listing, h.asked_listed mem, ?_,
    nofun⟩
  intro a' mem'
  by_cases ne : a.engine = a'.engine
  · obtain rfl : a = a' := h.eq_of_engine mem mem' ne
    obtain ⟨outcome, done, leaves⟩ := h.follow a mem
    obtain rfl := h.opened_of_slot mem here done
    refine ⟨.opened, done, .inr ⟨nofun, ?_⟩⟩
    rw [Roll.asked, callsTo_append, callsTo_map_self]
    exact (leaves.resolve_right fun out => out.1 here).2.close
  · refine (h.follow a' mem').congr rfl ?_ (callsTo_append_of_ne ne _)
    simp [here, ne]

/-- **The engine is taken out of its slot and closed** by the opening that has put it there. -/
theorem withdraw {s : Session} {reason : String}
    (h : x.Lawful (some (Opening.withdrawEngine s reason : Opening σ)) as)
    (here : x.inSlot = some number) :
    Roll.Lawful { x.asked number [.close] with inSlot := none }
      (some (Opening.withdrawPipeline s reason : Opening σ)) as := by
  obtain ⟨first, rest, rfl, none, ⟨slot, inUse⟩, others⟩ := h.follow
  obtain rfl : number = first.engine := Option.some.inj (here.symm.trans slot)
  refine ⟨h.asked_numbered (h.made first List.mem_cons_self), h.made, h.distinct, h.listing,
    h.asked_listed List.mem_cons_self, ?_, nofun⟩
  refine ⟨first, rest, rfl, none, ?_, fun a mem => ?_⟩
  · rw [Roll.asked, callsTo_append, callsTo_map_self]
    exact inUse.close
  · have ne := h.ne_of_mem_rest mem
    exact (others a mem).congr rfl (by simp [here, ne]) (callsTo_append_of_ne ne _)

end Roll.Lawful

end Kinds

end Bridge

end SynthBridge
