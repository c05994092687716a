import SynthBridge.Proofs.Rom.Survey
import SynthBridge.Proofs.Storage.Path
import SynthBridge.Proofs.Storage.Tree
import SynthBridge.Rom.Builtin

/-!
# ROMs that are told by their names

Of the ROMs that share a file name the first in the catalog is reported
(`Probe.infoOfName?_of_mem`), and that is as good as any where they have one id. Then a ROM is
present as soon as its file is there (`Probe.romPresent_iff`), and so is a model as soon as its
files are: `Probe.present_iff_files`. What is reported is just the id that a versioned ROM asks for,
so that it does not matter which ids name a version; nor does it matter what else is in the catalog,
and in which order.
-/

namespace SynthBridge

variable {C : Catalog} {rom : RomFile} {m : Model} {set : RomSet} {t : FileTree} {dir : String}

/-- Whether a role can be filled from a directory: its full file is there with something in it, or
both of its halves are. -/
def RomSet.FilledIn (set : RomSet) (t : FileTree) (dir : String) : Prop :=
  (∃ rom, set.full = some rom ∧ t.HasContent (rom.pathIn dir)) ∨
    ∃ a b, set.halves = some (a, b) ∧ t.HasContent (a.pathIn dir) ∧ t.HasContent (b.pathIn dir)

theorem RomSet.mem_files_of_full (full : set.full = some rom) : rom ∈ set.files := by
  simp [RomSet.files, full]

theorem RomSet.mem_files_of_halves {a b : RomFile} (halves : set.halves = some (a, b)) :
    a ∈ set.files ∧ b ∈ set.files := by
  rw [RomSet.halves] at halves
  split at halves
  · rename_i first second
    cases halves
    simp [RomSet.files, first, second]
  · cases halves

namespace Probe

/-! ## The table of names -/

/-- ROMs whose files have one name have one id. -/
def OneIdPerName (C : Catalog) : Prop :=
  ∀ rom ∈ files C, ∀ rom' ∈ files C, rom.filename = rom'.filename → rom.id = rom'.id

/-- Every file name is one step of a path. -/
def PlainNames (C : Catalog) : Prop := ∀ rom ∈ files C, Path.IsPlain rom.filename

instance (C : Catalog) : Decidable (OneIdPerName C) :=
  inferInstanceAs (Decidable (∀ rom ∈ files C, ∀ rom' ∈ files C,
    rom.filename = rom'.filename → rom.id = rom'.id))

instance (C : Catalog) : Decidable (PlainNames C) :=
  inferInstanceAs (Decidable (∀ rom ∈ files C, Path.IsPlain rom.filename))

theorem reports_infoOf (rom : RomFile) : (infoOf rom).reports rom.id = true := by
  unfold infoOf RomInfo.reports
  split <;> simp

/-- **Under the name of a ROM stands its id**, whichever of those with this name came first. -/
theorem infoOfName?_of_mem (one : OneIdPerName C) (listed : rom ∈ files C) :
    ∃ info, infoOfName? C rom.filename = some info ∧ info.reports rom.id = true := by
  have named : ((files C).find? fun other => other.filename == rom.filename).isSome = true :=
    List.find?_isSome.2 ⟨rom, listed, beq_self_eq_true _⟩
  obtain ⟨first, found⟩ := Option.isSome_iff_exists.1 named
  have same : first.filename = rom.filename := by simpa using List.find?_some found
  have id : first.id = rom.id := one first (List.mem_of_find?_eq_some found) rom listed same
  refine ⟨infoOf first, ?_, id ▸ reports_infoOf first⟩
  rw [infoOfName?, found]
  rfl

/-! ## What is present -/

theorem identify_pathIn (plain : Path.IsPlain rom.filename) :
    identify C t (rom.pathIn dir) =
      if t.isNonEmptyFile (rom.pathIn dir) then infoOfName? C rom.filename else none := by
  have name : Path.fileName? (rom.pathIn dir) = some rom.filename := Path.fileName?_join plain dir
  simp only [identify, name, bind, Option.bind]
  cases infoOfName? C rom.filename <;> simp

/-- **A ROM of the catalog is present just if its file is there**, with something in it. -/
theorem romPresent_iff (one : OneIdPerName C) (plain : PlainNames C) (listed : rom ∈ files C) :
    (Presence.romPresent (identify C) t dir rom).1 = true ↔ t.HasContent (rom.pathIn dir) := by
  obtain ⟨info, reported, reports⟩ := infoOfName?_of_mem one listed
  rw [Presence.romPresent_iff, identify_pathIn (plain rom listed), reported,
    ← FileTree.isNonEmptyFile_iff]
  constructor
  · rintro ⟨-, info', identified, -⟩
    by_contra empty
    rw [if_neg empty] at identified
    cases identified
  · intro there
    exact ⟨(FileTree.isNonEmptyFile_iff.1 there).has, info, if_pos there, fun _ => reports⟩

theorem rolePresent_iff (one : OneIdPerName C) (plain : PlainNames C)
    (listed : ∀ rom ∈ set.files, rom ∈ files C) :
    (Presence.rolePresent (identify C) t dir set).1 = true ↔ set.FilledIn t dir := by
  rw [Presence.rolePresent_fst, Bool.or_eq_true, RomSet.FilledIn, Option.any_eq_true,
    Option.any_eq_true, Prod.exists]
  refine or_congr (exists_congr fun rom => and_congr_right fun known => ?_)
    (exists_congr fun a => exists_congr fun b => and_congr_right fun known => ?_)
  · exact romPresent_iff one plain (listed rom (RomSet.mem_files_of_full known))
  · obtain ⟨first, second⟩ := RomSet.mem_files_of_halves known
    rw [Bool.and_eq_true, romPresent_iff one plain (listed a first),
      romPresent_iff one plain (listed b second)]

theorem modelPresent_iff (one : OneIdPerName C) (plain : PlainNames C) (listed : m ∈ C.models) :
    (Presence.modelPresent (identify C) t dir m).1 = true ↔
      m.pcm.FilledIn t dir ∧ m.control.FilledIn t dir := by
  have known : ∀ rom ∈ m.files, rom ∈ files C := fun rom file =>
    List.mem_flatMap.2 ⟨m, listed, file⟩
  rw [Presence.modelPresent, Bool.and_eq_true,
    rolePresent_iff one plain fun rom file => known rom (List.mem_append_left _ file),
    rolePresent_iff one plain fun rom file => known rom (List.mem_append_right _ file)]

/-- **A model is present where its files are.** In a catalog in which one name stands for one id,
with nothing remembered, a model told by names is present in a directory just if for both of its
roles the full file is there with something in it, or both halves are; and a listing of directories
has a row for one that lists the model just if that is so. -/
theorem present_iff_files (C : Catalog) (one : OneIdPerName C) (plain : PlainNames C)
    (t : FileTree) :
    let inv : Inventory := { catalog := C }
    (∀ e ∈ C.entries, ∀ dir, (inv.check (identify C) t e dir).1 = true ↔
      e.model.pcm.FilledIn t dir ∧ e.model.control.FilledIn t dir) ∧
    ∀ dirs, ∀ dir ∈ dirs, ∀ m ∈ C.models,
      (∃ row ∈ (Listing.rows inv (identify C) t dirs []).1, row.dir = dir ∧ m ∈ row.present) ↔
        m.pcm.FilledIn t dir ∧ m.control.FilledIn t dir := by
  intro inv
  have fresh : inv.Truthful (identify C) t := Inventory.truthful_of_known_eq_nil rfl
  constructor
  · intro e known dir
    have listed : e.model ∈ C.models := by
      rw [← Catalog.map_model_entries C]
      exact List.mem_map_of_mem known
    rw [fresh.check_fst known, modelPresent_iff one plain listed]
  · intro dirs dir searched m listed
    have held : m ∈ Listing.holdings C (identify C) t dir ↔
        m.pcm.FilledIn t dir ∧ m.control.FilledIn t dir := by
      rw [Listing.holdings_eq, List.mem_filter, modelPresent_iff one plain listed,
        and_iff_right listed]
    have rows : (Listing.rows inv (identify C) t dirs []).1 =
        Listing.rowsOf (Listing.holdings C (identify C) t) dirs := by
      simpa using Listing.rows_of_truthful fresh dirs []
    rw [rows, ← held]
    constructor
    · rintro ⟨row, shown, rfl, present⟩
      obtain ⟨dir, -, -, rfl⟩ := Listing.mem_rowsOf.1 shown
      exact present
    · intro present
      exact ⟨_, Listing.mem_rowsOf.2 ⟨dir, searched, List.ne_nil_of_mem present, rfl⟩, rfl, present⟩

/-- The built-in catalog; all of its definitions are models. -/
def builtinCatalog : Catalog := Catalog.builtin.toOption.getD ⟨[]⟩

/-- The chips of one board revision: the halves of its PCM ROM, which other models use too, and
those of its control ROM. -/
def chips : FileTree :=
  ⟨["r15179844.ic21.bin", "r15179845.ic22.bin", "mt32_1.0.7.ic27.bin", "mt32_1.0.7.ic26.bin"].map
      (fun name => (["", "roms", name], .file "rom".toUTF8)) ++
    [(["", "roms"], .folder), ([""], .folder)]⟩

/-- The revision is present by its chips, though it is the seventh model and its ids name a
version. -/
theorem present_iff_files_builtin :
    Catalog.builtin = .ok builtinCatalog ∧ OneIdPerName builtinCatalog ∧
      PlainNames builtinCatalog ∧ ∃ m, builtinCatalog.models[6]? = some m ∧
        m.name = "mt32_1_07" ∧ m.pcm.FilledIn chips "roms" ∧ m.control.FilledIn chips "roms" ∧
        (Inventory.check { catalog := builtinCatalog } (identify builtinCatalog) chips ⟨6, m⟩
          "roms").1 = true := by
  have one : OneIdPerName builtinCatalog := by decide +kernel
  have plain : PlainNames builtinCatalog := by decide +kernel
  have there (path : String) (nonempty : chips.isNonEmptyFile path = true) :
      chips.HasContent path := FileTree.isNonEmptyFile_iff.1 nonempty
  have pcm : Builtin.mt32PcmSet.FilledIn chips "roms" :=
    .inr ⟨_, _, rfl, there _ (by decide +kernel), there _ (by decide +kernel)⟩
  have control : (Builtin.mt32ControlPair "1_07" "mt32_1.0.7").FilledIn chips "roms" :=
    .inr ⟨_, _, rfl, there _ (by decide +kernel), there _ (by decide +kernel)⟩
  obtain ⟨present, -⟩ := present_iff_files builtinCatalog one plain chips
  exact ⟨rfl, one, plain, _, rfl, rfl, pcm, control,
    (present ⟨6, _⟩ (Catalog.mem_entries.2 rfl) "roms").2 ⟨pcm, control⟩⟩

end Probe

end SynthBridge
