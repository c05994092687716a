import SynthBridge.Engine.Scripted
import SynthBridge.Proofs.Rom.Presence
import SynthBridge.Rom.Resolve

/-!
# What an engine takes ROM files for

An engine that goes by the contents of files alone (`Engine.ReadsContents`) makes of a ROM what a
new one makes of it, so that what is left of a role or of a model can be said without the engine's
state: `Engine.fills` for a role, `Engine.loads` for a model in a directory. Loading finds just
that out (`Loading.loadRole_fst`, `Loading.tryCandidate_fst`).
-/

namespace SynthBridge

variable {α σ : Type}

/-! ## Engines that go by contents -/

/-- What an engine makes of ROM files depends on their contents alone: neither on its state nor on
where the files lie. -/
structure Engine.ReadsContents (E : Engine α σ) : Prop where
  identify_eq : ∀ (s s' : σ) {t t' : FileTree} {path path' : String},
    t.read path = t'.read path' → E.identify s t path = E.identify s' t' path'
  add_eq : ∀ (s s' : σ) {t t' : FileTree} {path path' : String},
    t.read path = t'.read path' → (E.add s t path).1 = (E.add s' t' path').1
  merge_eq : ∀ (s s' : σ) {t t' : FileTree} {first second first' second' : String},
    t.read first = t'.read first' → t.read second = t'.read second' →
      (E.merge s t first second).1 = (E.merge s' t' first' second').1

/-- How an engine identifies files. -/
def Engine.identifier (E : Engine α σ) : Identifier := E.identify E.create

theorem Engine.ReadsContents.identifier_eq {E : Engine α σ} (reads : E.ReadsContents) (s : σ) :
    E.identify s = E.identifier := by
  funext t path
  exact reads.identify_eq s E.create rfl

namespace Scripted

variable {t t' : FileTree} {path path' : String}

theorem romText_eq (same : t.read path = t'.read path') : romText t path = romText t' path' := by
  simp only [romText, FileTree.readText, same]

/-- An engine that follows a script goes by the texts of the files. -/
theorem readsContents [Amplitude α] (script : Script α) : (engine script).ReadsContents where
  identify_eq s s' t t' path path' same := by
    simp only [engine, romText_eq same]
  add_eq s s' t t' path path' same := by
    simp only [engine, add, romText_eq same]
    cases romText t' path' with
    | none => rfl
    | some text =>
      simp only
      split <;> rfl
  merge_eq s s' t t' first second first' second' same same' := by
    simp only [engine, merge, romText_eq same, romText_eq same']
    split
    · split <;> rfl
    · rfl

end Scripted

/-! ## What an engine takes -/

/-- Files that an engine took as one ROM, and what it took them for. -/
structure Taken (φ : Type) where
  files : List φ
  kind : RomKind
  deriving DecidableEq, Repr

/-- The same with the paths of the files in a directory. -/
def Taken.pathsIn (dir : String) (x : Taken RomFile) : Taken String :=
  ⟨x.files.map (·.pathIn dir), x.kind⟩

/-- The ROM that an engine took in a call, if it took one. -/
def Call.taken? : Call α → Option (Taken String)
  | .add path (some kind) => some ⟨[path], kind⟩
  | .merge first second (some kind) => some ⟨[first, second], kind⟩
  | _ => none

/-- Whether an engine has no ROMs after a call, whatever it had before. -/
def Call.empties : Call α → Bool
  | .create | .discard => true
  | _ => false

/-- The ROMs that an engine took since it was made or was last told to forget them. -/
def held (calls : List (Call α)) : List (Taken String) :=
  calls.foldl (fun roms c => if c.empties then [] else roms ++ c.taken?.toList) []

theorem held_concat (calls : List (Call α)) (c : Call α) :
    held (calls ++ [c]) = if c.empties then [] else held calls ++ c.taken?.toList := by
  simp [held]

/-- Identifying files leaves an engine the ROMs that it has. -/
theorem held_append_looked (calls : List (Call α)) (looks : List Look) :
    held (calls ++ Loading.looked looks) = held calls := by
  induction looks generalizing calls with
  | nil => simp [Loading.looked]
  | cons look rest ih =>
    have first : held (calls ++ [Call.identify look.path look.info]) = held calls := by
      simp [held_concat, Call.empties, Call.taken?]
    have others := ih (calls ++ [Call.identify look.path look.info])
    rw [first] at others
    simpa [Loading.looked] using others

/-! ## Roles and models -/

namespace Engine

variable (E : Engine α σ) (t : FileTree) (dir : String) (set : RomSet) (kind : RomKind)

/-- What the full file of a role is taken for. -/
def whole : Option (Taken RomFile) :=
  set.full.bind fun rom => (E.add E.create t (rom.pathIn dir)).1.map (⟨[rom], ·⟩)

/-- What the two halves of a role are taken for. -/
def joined : Option (Taken RomFile) :=
  set.halves.bind fun (a, b) =>
    (E.merge E.create t (a.pathIn dir) (b.pathIn dir)).1.map (⟨[a, b], ·⟩)

/-- Whether the full file of a role, or else its halves, are taken for what the role asks for. -/
def fills : Bool :=
  (E.whole t dir set).any (·.kind == kind) || (E.joined t dir set).any (·.kind == kind)

/-- The ROMs that are taken where a role is loaded: the halves are tried only if the full file was
not taken for what the role asks for. -/
def takes : List (Taken RomFile) :=
  (E.whole t dir set).toList ++
    if (E.whole t dir set).any (·.kind == kind) then [] else (E.joined t dir set).toList

/-- Whether a model is present in a directory and both of its roles can be filled from there. -/
def loads (m : Model) : Bool :=
  (Presence.modelPresent E.identifier t dir m).1 &&
    (E.fills t dir m.pcm .pcm && E.fills t dir m.control .control)

end Engine

namespace Loading

variable {E : Engine α σ} {t : FileTree} {l l' l'' : Loading α σ} {dir : String} {set : RomSet}
  {kind : RomKind} {e : Catalog.Entry} {c : Catalog.Candidate} {roms roms' : List (Taken String)}

/-! ## Loading a role -/

/-- Files were offered to the engine, which took some ROMs; nothing else happened. -/
structure Fed (l l' : Loading α σ) (roms : List (Taken String)) : Prop where
  inventory : l'.inventory = l.inventory
  log : l'.log = l.log
  held : held l'.calls = held l.calls ++ roms

theorem Fed.refl (l : Loading α σ) : l.Fed l [] := ⟨rfl, rfl, (List.append_nil _).symm⟩

theorem Fed.trans (h : l.Fed l' roms) (h' : l'.Fed l'' roms') : l.Fed l'' (roms ++ roms') where
  inventory := h'.inventory.trans h.inventory
  log := h'.log.trans h.log
  held := by rw [h'.held, h.held, List.append_assoc]

/-- Offers the full file of a role, if there is one. -/
def addWhole (E : Engine α σ) (t : FileTree) (l : Loading α σ) (dir : String) (set : RomSet) :
    Option RomKind × Loading α σ :=
  match set.full with
  | some rom => l.add E t (rom.pathIn dir)
  | none => (none, l)

/-- Offers the two halves of a role, if there are any. -/
def joinHalves (E : Engine α σ) (t : FileTree) (l : Loading α σ) (dir : String) (set : RomSet) :
    Option RomKind × Loading α σ :=
  match set.halves with
  | some (a, b) => l.merge E t (a.pathIn dir) (b.pathIn dir)
  | none => (none, l)

theorem loadRole_eq : l.loadRole E t dir set kind =
    let whole := l.addWhole E t dir set
    let joined := whole.2.joinHalves E t dir set
    if whole.1 == some kind then (true, whole.2) else (joined.1 == some kind, joined.2) := by
  unfold loadRole addWhole joinHalves
  cases set.full <;> cases set.halves <;> rfl

theorem addWhole_spec (reads : E.ReadsContents) :
    (l.addWhole E t dir set).1 = (E.whole t dir set).map Taken.kind ∧
      l.Fed (l.addWhole E t dir set).2 ((E.whole t dir set).toList.map (Taken.pathsIn dir)) := by
  unfold addWhole Engine.whole
  cases set.full with
  | none => exact ⟨rfl, .refl l⟩
  | some rom =>
    have answer := reads.add_eq l.engine E.create (rfl : t.read (rom.pathIn dir) = _)
    refine ⟨?_, rfl, rfl, ?_⟩
    · simp [add, answer, Function.comp_def]
    · simp only [add, answer, held_concat, Call.empties, Option.bind_some]
      cases (E.add E.create t (rom.pathIn dir)).1 <;> simp [Call.taken?, Taken.pathsIn]

theorem joinHalves_spec (reads : E.ReadsContents) :
    (l.joinHalves E t dir set).1 = (E.joined t dir set).map Taken.kind ∧
      l.Fed (l.joinHalves E t dir set).2 ((E.joined t dir set).toList.map (Taken.pathsIn dir)) := by
  unfold joinHalves Engine.joined
  cases set.halves with
  | none => exact ⟨rfl, .refl l⟩
  | some halves =>
    obtain ⟨a, b⟩ := halves
    have answer := reads.merge_eq l.engine E.create (rfl : t.read (a.pathIn dir) = _)
      (rfl : t.read (b.pathIn dir) = _)
    refine ⟨?_, rfl, rfl, ?_⟩
    · simp [merge, answer, Function.comp_def]
    · simp only [merge, answer, held_concat, Call.empties, Option.bind_some]
      cases (E.merge E.create t (a.pathIn dir) (b.pathIn dir)).1 <;>
        simp [Call.taken?, Taken.pathsIn]

theorem map_kind_beq (x : Option (Taken RomFile)) :
    (x.map Taken.kind == some kind) = x.any (·.kind == kind) := by
  cases x <;> simp

/-- **A role is filled** just if the engine takes its files for what the role asks for. -/
theorem loadRole_fst (reads : E.ReadsContents) :
    (l.loadRole E t dir set kind).1 = E.fills t dir set kind := by
  simp only [loadRole_eq, (addWhole_spec reads).1, (joinHalves_spec reads).1, map_kind_beq,
    Engine.fills]
  split <;> simp_all

/-- What the engine takes while a role is loaded. -/
theorem fed_loadRole (reads : E.ReadsContents) :
    l.Fed (l.loadRole E t dir set kind).2
      ((E.takes t dir set kind).map (Taken.pathsIn dir)) := by
  obtain ⟨answer, fed⟩ : (l.addWhole E t dir set).1 = (E.whole t dir set).map Taken.kind ∧
      l.Fed (l.addWhole E t dir set).2 _ := addWhole_spec reads
  simp only [loadRole_eq, answer, map_kind_beq, Engine.takes, List.map_append]
  split
  · simpa using fed
  · exact fed.trans (joinHalves_spec reads).2

/-! ## Trying a candidate -/

@[simp]
theorem check_fst :
    (l.check E t e dir).1 = (l.inventory.check (E.identify l.engine) t e dir).1 := rfl

@[simp]
theorem inventory_check :
    (l.check E t e dir).2.inventory = (l.inventory.check (E.identify l.engine) t e dir).2.2 := rfl

theorem held_check : held (l.check E t e dir).2.calls = held l.calls :=
  held_append_looked ..

/-- Checking once more changes nothing. -/
theorem check_again : (l.check E t e dir).2.check E t e dir = l.check E t e dir := by
  unfold check
  simp only [Inventory.check_check, looked, List.map_nil, List.append_nil]

/-- **Trying a candidate** is a check, and then, if the model is present, both of its roles. -/
theorem tryCandidate_eq : l.tryCandidate E t c =
    let checked := l.check E t c.entry c.dir
    let pcm := checked.2.loadRole E t c.dir c.entry.model.pcm .pcm
    let control := pcm.2.loadRole E t c.dir c.entry.model.control .control
    if !checked.1 then (false, checked.2)
    else if pcm.1 && control.1 then
      (true, { control.2 with log := control.2.log ++ [.loaded c.entry.model.name c.dir] })
    else
      (false, { control.2 with
        engine := E.discard control.2.engine
        calls := control.2.calls ++ [.discard]
        log := control.2.log ++ [.loadFailed c.entry.model.name c.dir] }) := by
  unfold tryCandidate load
  simp only [check_again]
  cases (l.check E t c.entry c.dir).1 <;> rfl

theorem fed_roles (reads : E.ReadsContents) (dir : String) (m : Model) :
    l.Fed ((l.loadRole E t dir m.pcm .pcm).2.loadRole E t dir m.control .control).2
      ((E.takes t dir m.pcm .pcm ++ E.takes t dir m.control .control).map (Taken.pathsIn dir)) := by
  rw [List.map_append]
  exact (fed_loadRole reads).trans (fed_loadRole reads)

/-- **A candidate is loaded** just if the model is present and the engine fills both of its
roles. -/
theorem tryCandidate_fst (reads : E.ReadsContents)
    (truthful : l.inventory.Truthful E.identifier t)
    (known : c.entry ∈ l.inventory.catalog.entries) :
    (l.tryCandidate E t c).1 = E.loads t c.dir c.entry.model := by
  have present : (l.check E t c.entry c.dir).1 =
      (Presence.modelPresent E.identifier t c.dir c.entry.model).1 := by
    rw [check_fst, reads.identifier_eq, truthful.check_fst known]
  simp only [tryCandidate_eq, loadRole_fst reads, Engine.loads, ← present]
  cases (l.check E t c.entry c.dir).1 with
  | false => rfl
  | true =>
    simp only [Bool.not_true, Bool.false_eq_true, if_false, Bool.true_and]
    split <;> simp_all

theorem inventory_tryCandidate (reads : E.ReadsContents) :
    (l.tryCandidate E t c).2.inventory =
      (l.inventory.check E.identifier t c.entry c.dir).2.2 := by
  have loaded := (fed_roles (l := (l.check E t c.entry c.dir).2) (t := t) reads c.dir
    c.entry.model).inventory
  rw [inventory_check, reads.identifier_eq] at loaded
  simp only [tryCandidate_eq]
  split
  · rw [inventory_check, reads.identifier_eq]
  · split <;> exact loaded

/-- **A candidate leaves all of its ROMs with the engine, or none.** -/
theorem held_tryCandidate (reads : E.ReadsContents) (nothing : held l.calls = []) :
    held (l.tryCandidate E t c).2.calls =
      if (l.tryCandidate E t c).1 then
        (E.takes t c.dir c.entry.model.pcm .pcm ++
          E.takes t c.dir c.entry.model.control .control).map (Taken.pathsIn c.dir)
      else [] := by
  have loaded := (fed_roles (l := (l.check E t c.entry c.dir).2) (t := t) reads c.dir
    c.entry.model).held
  rw [held_check, nothing, List.nil_append] at loaded
  simp only [tryCandidate_eq]
  split
  · simpa only [Bool.false_eq_true, if_false, held_check] using nothing
  · split
    · exact loaded
    · simp only [held_concat, Call.empties, Bool.false_eq_true, if_false, if_true]

end Loading

end SynthBridge
