import SynthBridge.Proofs.Rom.Resolve

/-!
# The ROMs that a search leaves with an engine

A search leaves an engine the ROMs of the model that it found, or none
(`Loading.held_firstLoaded`). Of each role that is one ROM which fills it, but before that the full
file may have been taken for something else (`Engine.takes_of_fills`): `Loading.held_resolve` has
the count. `Loading.finds_taken` tells which of the files taken were found to be present.
-/

namespace SynthBridge

/-- The ways to fill a role: the full file, and the two halves. -/
def RomSet.ways (set : RomSet) : List (List RomFile) :=
  set.full.toList.map (fun rom => [rom]) ++ set.halves.toList.map fun (a, b) => [a, b]

variable {α σ : Type}

namespace Engine

variable {E : Engine α σ} {t : FileTree} {dir : String} {set : RomSet} {kind : RomKind}
  {x : Taken RomFile}

/-! ## The ROMs of a role -/

/-- What the full file of a role is taken for, if that is not what the role asks for. -/
def strays (E : Engine α σ) (t : FileTree) (dir : String) (set : RomSet) (kind : RomKind) :
    List (Taken RomFile) :=
  ((E.whole t dir set).filter (·.kind != kind)).toList

theorem files_of_whole (taken : E.whole t dir set = some x) :
    ∃ rom, set.full = some rom ∧ x.files = [rom] := by
  simp only [whole, Option.bind_eq_some_iff, Option.map_eq_some_iff] at taken
  obtain ⟨rom, full, kind, -, rfl⟩ := taken
  exact ⟨rom, full, rfl⟩

theorem files_of_joined (taken : E.joined t dir set = some x) :
    ∃ a b, set.halves = some (a, b) ∧ x.files = [a, b] := by
  simp only [joined, Option.bind_eq_some_iff, Option.map_eq_some_iff] at taken
  obtain ⟨⟨a, b⟩, halves, kind, -, rfl⟩ := taken
  exact ⟨a, b, halves, rfl⟩

theorem files_mem_ways (taken : E.whole t dir set = some x ∨ E.joined t dir set = some x) :
    x.files ∈ set.ways := by
  rcases taken with whole | joined
  · obtain ⟨rom, full, files⟩ := files_of_whole whole
    simp [RomSet.ways, full, files]
  · obtain ⟨a, b, halves, files⟩ := files_of_joined joined
    simp [RomSet.ways, halves, files]

/-- **A role that is filled** is filled by the last ROM that was taken for it, and the only other
that may have been taken is the full file. -/
theorem takes_of_fills (fills : E.fills t dir set kind = true) : ∃ x : Taken RomFile,
    x.files ∈ set.ways ∧ x.kind = kind ∧
      E.takes t dir set kind = E.strays t dir set kind ++ [x] := by
  unfold Engine.fills at fills
  unfold takes strays
  cases fits : (E.whole t dir set).any (·.kind == kind) with
  | true =>
    obtain ⟨x, whole, asked⟩ := (Option.any_eq_true ..).1 fits
    have asked : x.kind = kind := by simpa using asked
    exact ⟨x, files_mem_ways (.inl whole), asked, by simp [whole, asked]⟩
  | false =>
    rw [fits, Bool.false_or] at fills
    obtain ⟨x, joined, asked⟩ := (Option.any_eq_true ..).1 fills
    refine ⟨x, files_mem_ways (.inr joined), by simpa using asked, ?_⟩
    cases whole : E.whole t dir set with
    | none => simp [joined]
    | some y =>
      have stray : (y.kind != kind) = true := by simpa [whole] using fits
      rw [joined, Option.filter_some, if_pos stray]
      rfl

/-- Every file of a way to fill a role is found to be present. -/
def Finds (E : Engine α σ) (t : FileTree) (dir : String) (files : List RomFile) : Prop :=
  ∀ rom ∈ files, (Presence.romPresent E.identifier t dir rom).1 = true

theorem whole_or_joined (taken : x ∈ E.takes t dir set kind) :
    E.whole t dir set = some x ∨ E.joined t dir set = some x := by
  unfold takes at taken
  rcases List.mem_append.1 taken with whole | joined
  · exact .inl (Option.mem_toList.1 whole)
  · split at joined
    · simp at joined
    · exact .inr (Option.mem_toList.1 joined)

/-- **The files taken for a role that is present** are found to be present themselves, or else those
of the other way to fill the role are. -/
theorem finds_of_takes (present : (Presence.rolePresent E.identifier t dir set).1 = true)
    (taken : x ∈ E.takes t dir set kind) : x.files ∈ set.ways ∧
      (E.Finds t dir x.files ∨ ∃ way ∈ set.ways, way ≠ x.files ∧ E.Finds t dir way) := by
  have origin := whole_or_joined taken
  refine ⟨files_mem_ways origin, ?_⟩
  rw [Presence.rolePresent_fst, Bool.or_eq_true] at present
  rcases present with full | halves
  · obtain ⟨rom, full, found⟩ := (Option.any_eq_true ..).1 full
    have finds : E.Finds t dir [rom] := by simpa [Finds] using found
    rcases origin with whole | joined
    · obtain ⟨rom', full', files⟩ := files_of_whole whole
      obtain rfl : rom = rom' := Option.some.inj (full.symm.trans full')
      exact .inl (files ▸ finds)
    · obtain ⟨a, b, -, files⟩ := files_of_joined joined
      exact .inr ⟨[rom], by simp [RomSet.ways, full], by simp [files], finds⟩
  · obtain ⟨⟨a, b⟩, halves, found⟩ := (Option.any_eq_true ..).1 halves
    have finds : E.Finds t dir [a, b] := by simpa [Finds] using found
    rcases origin with whole | joined
    · obtain ⟨rom, -, files⟩ := files_of_whole whole
      exact .inr ⟨[a, b], by simp [RomSet.ways, halves], by simp [files], finds⟩
    · obtain ⟨a', b', halves', files⟩ := files_of_joined joined
      obtain ⟨rfl, rfl⟩ := Prod.mk.inj (Option.some.inj (halves.symm.trans halves'))
      exact .inl (files ▸ finds)

end Engine

namespace Loading

variable {E : Engine α σ} {t : FileTree} {l : Loading α σ} {C : Catalog}
  {c : Catalog.Candidate} {selector : ModelSelector} {dirs : List String}

/-! ## The ROMs of a model -/

/-- The ROMs that are taken where a candidate is loaded, PCM first. -/
def taken (E : Engine α σ) (t : FileTree) (c : Catalog.Candidate) : List (Taken RomFile) :=
  E.takes t c.dir c.entry.model.pcm .pcm ++ E.takes t c.dir c.entry.model.control .control

/-- Both roles of a candidate can be filled. -/
def Filled (E : Engine α σ) (t : FileTree) (c : Catalog.Candidate) : Prop :=
  E.fills t c.dir c.entry.model.pcm .pcm = true ∧
    E.fills t c.dir c.entry.model.control .control = true

theorem filled_of_tryCandidate (reads : E.ReadsContents)
    (loaded : (l.tryCandidate E t c).1 = true) : Filled E t c := by
  simp only [tryCandidate_eq, loadRole_fst reads] at loaded
  split at loaded
  · cases loaded
  · split at loaded
    · rename_i both
      exact Bool.and_eq_true_iff.1 both
    · cases loaded

/-- **Nothing stays with the engine of a candidate that was passed by.** -/
theorem held_firstLoaded (reads : E.ReadsContents) (nothing : held l.calls = [])
    (cs : List Catalog.Candidate) :
    (∀ c, (l.firstLoaded E t cs).1 = some c → Filled E t c ∧
      held (l.firstLoaded E t cs).2.calls = (taken E t c).map (Taken.pathsIn c.dir)) ∧
    ((l.firstLoaded E t cs).1 = none → held (l.firstLoaded E t cs).2.calls = []) := by
  induction cs generalizing l with
  | nil =>
    refine ⟨?_, fun _ => nothing⟩
    intro c found
    cases found
  | cons c rest ih =>
    have left := held_tryCandidate (c := c) (t := t) reads nothing
    simp only [firstLoaded]
    cases loaded : (l.tryCandidate E t c).1 with
    | true =>
      simp only [loaded, if_true] at left ⊢
      constructor
      · intro c' found
        obtain rfl : c = c' := Option.some.inj found
        exact ⟨filled_of_tryCandidate reads loaded, left⟩
      · intro none
        cases none
    | false =>
      simp only [loaded, Bool.false_eq_true, if_false] at left ⊢
      exact ih left

/-- **What a search leaves with an engine** that had no ROMs. If it fails, that is nothing. If it
finds a model, that is for each of the two roles one ROM from the model's files for the role, which
the engine took for what the role asks for, and before it the full file where the engine took it for
something else; so these are exactly two ROMs where no full file was taken so. -/
theorem held_resolve (E : Engine α σ) (reads : E.ReadsContents) (t : FileTree) (l : Loading α σ)
    (selector : ModelSelector) (dirs : List String) (nothing : held l.calls = []) :
    (∀ c, (l.resolve E t selector dirs).1 = .ok c → ∃ pcm control : Taken RomFile,
      pcm.files ∈ c.entry.model.pcm.ways ∧ pcm.kind = .pcm ∧
      control.files ∈ c.entry.model.control.ways ∧ control.kind = .control ∧
      held (l.resolve E t selector dirs).2.calls =
        (E.strays t c.dir c.entry.model.pcm .pcm ++ [pcm] ++
          (E.strays t c.dir c.entry.model.control .control ++ [control])).map
            (Taken.pathsIn c.dir) ∧
      ((held (l.resolve E t selector dirs).2.calls).length = 2 ↔
        E.strays t c.dir c.entry.model.pcm .pcm = [] ∧
          E.strays t c.dir c.entry.model.control .control = [])) ∧
    (∀ f, (l.resolve E t selector dirs).1 = .error f →
      held (l.resolve E t selector dirs).2.calls = []) := by
  obtain ⟨won, lost⟩ := held_firstLoaded (t := t) reads nothing
    (l.inventory.catalog.candidates selector dirs)
  simp only [resolve_eq, answer_eq_ok]
  constructor
  · intro c found
    obtain ⟨⟨fillsPcm, fillsControl⟩, left⟩ := won c found
    obtain ⟨pcm, fromPcm, isPcm, takesPcm⟩ := Engine.takes_of_fills fillsPcm
    obtain ⟨control, fromControl, isControl, takesControl⟩ := Engine.takes_of_fills fillsControl
    rw [taken, takesPcm, takesControl] at left
    refine ⟨pcm, control, fromPcm, isPcm, fromControl, isControl, left, ?_⟩
    rw [left, ← List.length_eq_zero_iff, ← List.length_eq_zero_iff (l := Engine.strays ..)]
    simp only [List.length_map, List.length_append, List.length_singleton]
    omega
  · intro f failed
    refine lost ?_
    cases found : (l.firstLoaded E t (l.inventory.catalog.candidates selector dirs)).1 with
    | none => rfl
    | some c => simp [found, answer] at failed

/-- On the shelves, where two ROMs are left, no full file was taken for something else. -/
theorem held_resolve_on_shelves :
    shelfEngine.ReadsContents ∧
    held (fresh (α := Extended) shelfEngine.create shelfCatalog).calls = [] ∧
    ∃ c, ((fresh shelfEngine.create shelfCatalog).resolve shelfEngine shelves .auto
        ["one/"]).1 = .ok c ∧
      shelfEngine.strays shelves c.dir c.entry.model.pcm .pcm = [] ∧
      shelfEngine.strays shelves c.dir c.entry.model.control .control = [] := by
  have reads : shelfEngine.ReadsContents := Scripted.readsContents _
  obtain ⟨won, -⟩ := held_resolve shelfEngine reads shelves
    (fresh shelfEngine.create shelfCatalog) .auto ["one/"] rfl
  have succeeds : ((fresh shelfEngine.create shelfCatalog).resolve shelfEngine shelves .auto
      ["one/"]).1.toOption.isSome = true := by decide +kernel
  cases found : ((fresh shelfEngine.create shelfCatalog).resolve shelfEngine shelves .auto
      ["one/"]).1 with
  | error f => simp [found, Except.toOption] at succeeds
  | ok c =>
    obtain ⟨pcm, control, -, -, -, -, -, two⟩ := won c found
    exact ⟨reads, rfl, c, rfl, two.1 (by decide +kernel)⟩

/-- A PCM role that can be filled in both ways, where the full file holds a control ROM. -/
def mixedFiles : FileTree :=
  ⟨[(["", "d", "p.bin"], .file "ctrl_y".toUTF8), (["", "d", "a.bin"], .file "pcm_x".toUTF8),
    (["", "d", "b.bin"], .file "pcm_x".toUTF8), (["", "d", "c.bin"], .file "ctrl_x".toUTF8),
    (["", "d"], .folder), ([""], .folder)]⟩

def mixedCatalog : Catalog :=
  ⟨[⟨"x", .ofFullOrPair ⟨"pcm_x", "p.bin"⟩ ⟨"pcm_x", "a.bin"⟩ ⟨"pcm_x", "b.bin"⟩,
    .ofFull ⟨"ctrl_x", "c.bin"⟩, by decide, by decide, by decide⟩]⟩

/-- **A search can leave three ROMs with an engine**: the control ROM under the name of the full PCM
file is taken before the two halves. -/
theorem stray_held_after_resolve :
    shelfEngine.ReadsContents ∧
    held (fresh (α := Extended) shelfEngine.create mixedCatalog).calls = [] ∧
    ((fresh shelfEngine.create mixedCatalog).resolve shelfEngine mixedFiles .auto
      ["d/"]).1.toOption.isSome = true ∧
    held ((fresh shelfEngine.create mixedCatalog).resolve shelfEngine mixedFiles .auto
      ["d/"]).2.calls =
      [⟨["d/p.bin"], .control⟩, ⟨["d/a.bin", "d/b.bin"], .pcm⟩, ⟨["d/c.bin"], .control⟩] :=
  ⟨Scripted.readsContents _, rfl, by decide +kernel, by decide +kernel⟩

/-! ## What was looked at and what was taken -/

/-- **Which of the files taken were found to be present**, that is, exist, are identified as ROMs,
and are reported under just their id where it names a version (`Presence.romPresent_iff`). Of each
role those of one way to fill it were. They are those that the engine took, unless the role can be
filled in another way too. -/
theorem finds_taken (E : Engine α σ) (reads : E.ReadsContents) (t : FileTree) (s : σ)
    (C : Catalog) (selector : ModelSelector) (dirs : List String) (c : Catalog.Candidate)
    (found : ((fresh s C).resolve E t selector dirs).1 = .ok c) :
    held ((fresh s C).resolve E t selector dirs).2.calls =
        (taken E t c).map (Taken.pathsIn c.dir) ∧
      ∀ x ∈ taken E t c, ∃ set ∈ [c.entry.model.pcm, c.entry.model.control],
        x.files ∈ set.ways ∧
        (E.Finds t c.dir x.files ∨
          ∃ way ∈ set.ways, way ≠ x.files ∧ E.Finds t c.dir way) := by
  have first := found
  rw [((knows_fresh E t s C).resolve reads selector dirs).1, answer_eq_ok] at first
  have loaded : E.loads t c.dir c.entry.model = true := by
    have qualifies := List.find?_some first
    exact qualifies
  obtain ⟨present, -⟩ := Bool.and_eq_true_iff.1 loaded
  obtain ⟨pcm, control⟩ := Bool.and_eq_true_iff.1 present
  constructor
  · rw [resolve_eq, answer_eq_ok] at found
    rw [resolve_eq]
    exact ((held_firstLoaded reads rfl _).1 c found).2
  · intro x listed
    rcases List.mem_append.1 listed with fromPcm | fromControl
    · exact ⟨_, by simp, Engine.finds_of_takes pcm fromPcm⟩
    · exact ⟨_, by simp, Engine.finds_of_takes control fromControl⟩

/-- A control role that can be filled in both ways, where the full file is of another version. -/
def revisedFiles : FileTree :=
  ⟨[(["", "d", "p.bin"], .file "pcm_x".toUTF8), (["", "d", "c.bin"], .file "ctrl_x_1_01".toUTF8),
    (["", "d", "a.bin"], .file "ctrl_x_1_00_a".toUTF8),
    (["", "d", "b.bin"], .file "ctrl_x_1_00_b".toUTF8), (["", "d"], .folder), ([""], .folder)]⟩

def revisedPair : RomSet := .ofPair ⟨"ctrl_x_1_00_a", "a.bin"⟩ ⟨"ctrl_x_1_00_b", "b.bin"⟩

/-- The model by its halves alone. -/
def pairCatalog : Catalog :=
  ⟨[⟨"x_1_00", .ofFull ⟨"pcm_x", "p.bin"⟩, revisedPair, by decide, by decide, by decide⟩]⟩

/-- Of a model that has one way for each role, the halves that are taken are of the version that the
model names. -/
theorem finds_taken_halves :
    shelfEngine.ReadsContents ∧ ∃ c,
      ((fresh shelfEngine.create pairCatalog).resolve shelfEngine revisedFiles .auto
        ["d/"]).1 = .ok c ∧
      ∀ x ∈ taken shelfEngine revisedFiles c, shelfEngine.Finds revisedFiles c.dir x.files := by
  have reads : shelfEngine.ReadsContents := Scripted.readsContents _
  have succeeds : ((fresh shelfEngine.create pairCatalog).resolve shelfEngine revisedFiles .auto
      ["d/"]).1.toOption.any (fun c =>
        c.entry.model.pcm.ways.length == 1 && c.entry.model.control.ways.length == 1) = true := by
    decide +kernel
  cases found : ((fresh shelfEngine.create pairCatalog).resolve shelfEngine revisedFiles .auto
      ["d/"]).1 with
  | error f => simp [found, Except.toOption] at succeeds
  | ok c =>
    simp only [found, Except.toOption, Option.any_some, Bool.and_eq_true, beq_iff_eq,
      List.length_eq_one_iff] at succeeds
    have oneWay : ∀ set ∈ [c.entry.model.pcm, c.entry.model.control], ∃ way, set.ways = [way] := by
      simpa using succeeds
    refine ⟨reads, c, rfl, fun x listed => ?_⟩
    obtain ⟨-, finds⟩ := finds_taken shelfEngine reads revisedFiles _ pairCatalog .auto ["d/"] c
      found
    obtain ⟨set, role, files, same | ⟨way, other, differs, -⟩⟩ := finds x listed
    · exact same
    · obtain ⟨only, ways⟩ := oneWay set role
      simp_all

/-- The model by its halves or by a full file. -/
def revisedCatalog : Catalog :=
  ⟨[⟨"x_1_00", .ofFull ⟨"pcm_x", "p.bin"⟩,
    { revisedPair with full := some ⟨"ctrl_x_1_00", "c.bin"⟩ },
    by decide, by decide, by decide⟩]⟩

/-- **A ROM of another version can be taken**: the model is present by its halves, and then the full
file is taken, which is not the one asked for. -/
theorem other_version_taken :
    shelfEngine.ReadsContents ∧
    ((fresh shelfEngine.create revisedCatalog).resolve shelfEngine revisedFiles .auto
      ["d/"]).1.toOption.isSome = true ∧
    ⟨["d/c.bin"], .control⟩ ∈ held ((fresh shelfEngine.create revisedCatalog).resolve shelfEngine
      revisedFiles .auto ["d/"]).2.calls ∧
    shelfEngine.identifier revisedFiles "d/c.bin" = some { control := some "ctrl_x_1_01" } ∧
    (Presence.romPresent shelfEngine.identifier revisedFiles "d/"
      ⟨"ctrl_x_1_00", "c.bin"⟩).1 = false :=
  ⟨Scripted.readsContents _, by decide +kernel, by decide +kernel, by decide +kernel,
    by decide +kernel⟩

end Loading

end SynthBridge
