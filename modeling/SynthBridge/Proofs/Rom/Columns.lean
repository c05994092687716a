import Mathlib.Data.String.Basic
import SynthBridge.Proofs.Rom.Matrix

/-!
# Where labels and cells stand

In a listing without colours the headline has the label of every model and each row has its cells,
and both begin behind the place of the directories' names. A label takes its characters and a gap,
but a cell is as wide as the label's bytes and a gap. So a cell stands to the right of its label by
the bytes that the labels before it have beyond their characters (`Listing.surplus`), and the rows
outrun the headline by those of all labels: `Listing.cells_right_of_labels`. For labels in ASCII
there are none (`Listing.surplus_eq_zero_iff`); for others `Listing.cell_off_label` is an instance.
-/

namespace SynthBridge

/-! ## Characters and bytes -/

namespace Text

theorem length_le_utf8Len (cs : List Char) : cs.length ≤ String.utf8Len cs := by
  induction cs with
  | nil => exact Nat.le_refl 0
  | cons c rest ih => exact Nat.add_le_add ih (Char.utf8Size_pos c)

/-- A text has as many bytes as characters if all of them are ASCII. -/
theorem utf8Len_eq_length_iff {cs : List Char} :
    String.utf8Len cs = cs.length ↔ ∀ c ∈ cs, c.toNat < 128 := by
  induction cs with
  | nil => simp
  | cons c rest ih =>
    have ascii : c.utf8Size = 1 ↔ c.toNat < 128 := by
      rw [Char.utf8Size_eq_one_iff, UInt32.le_iff_toNat_le, ← Nat.lt_succ_iff]
      rfl
    have least := Char.utf8Size_pos c
    have others := length_le_utf8Len rest
    rw [List.forall_mem_cons, ← ih, ← ascii, String.utf8Len_cons, List.length_cons]
    omega

theorem utf8ByteSize_eq (s : String) : s.utf8ByteSize = String.utf8Len s.toList := by
  rw [← String.utf8ByteSize_ofList, String.ofList_toList]

theorem length_le_utf8ByteSize (s : String) : s.length ≤ s.utf8ByteSize := by
  rw [utf8ByteSize_eq, ← String.length_toList]
  exact length_le_utf8Len s.toList

theorem utf8ByteSize_eq_length_iff {s : String} :
    s.utf8ByteSize = s.length ↔ ∀ c ∈ s.toList, c.toNat < 128 := by
  rw [utf8ByteSize_eq, ← String.length_toList, utf8Len_eq_length_iff]

end Text

namespace Listing

variable {C : Catalog} {m : Model} {ms : List Model} {k : Nat}

/-! ## Columns -/

/-- A word stands in a line from a column on. -/
def StandsAt (line : List Char) (column : Nat) (word : List Char) : Prop :=
  ∃ before after, line = before ++ word ++ after ∧ before.length = column

/-- What is written for one of several models stands behind what is written for those before it. -/
theorem standsAt_flatMap (front : List Char) (f : Model → List Char) (listed : ms[k]? = some m) :
    StandsAt (front ++ ms.flatMap f)
      (front.length + ((ms.take k).map fun p => (f p).length).sum) (f m) := by
  obtain ⟨inside, rfl⟩ := List.getElem?_eq_some_iff.1 listed
  refine ⟨front ++ (ms.take k).flatMap f, (ms.drop (k + 1)).flatMap f, ?_, ?_⟩
  · conv_lhs => rw [← List.take_append_drop k ms, List.drop_eq_getElem_cons inside]
    rw [List.flatMap_append, List.flatMap_cons]
    simp only [List.append_assoc]
  · rw [List.length_append, List.length_flatMap]

/-- The column of a label, given the width of the directories' names and the models before it. -/
def labelColumn (width : Nat) (before : List Model) : Nat :=
  2 + width + (before.map fun p => p.version.length + 1).sum

/-- The bytes that labels have beyond their characters. -/
def surplus (ms : List Model) : Nat :=
  (ms.map fun m => m.version.utf8ByteSize - m.version.length).sum

/-- **There is no surplus where all labels are ASCII.** -/
theorem surplus_eq_zero_iff :
    surplus ms = 0 ↔ ∀ m ∈ ms, ∀ c ∈ m.version.toList, c.toNat < 128 := by
  rw [surplus, List.sum_eq_zero_iff_forall_eq_nat, List.forall_mem_map]
  refine forall₂_congr fun m _ => ?_
  rw [← Text.utf8ByteSize_eq_length_iff]
  have := Text.length_le_utf8ByteSize m.version
  omega

theorem sum_cellWidth (width : Nat) (ms : List Model) :
    2 + width + (ms.map cellWidth).sum = labelColumn width ms + surplus ms := by
  induction ms with
  | nil => rfl
  | cons m rest ih =>
    have := Text.length_le_utf8ByteSize m.version
    simp only [labelColumn, surplus, List.map_cons, List.sum_cons, cellWidth] at ih ⊢
    omega

/-! ## The headline and the rows -/

theorem standsAt_headline (C : Catalog) (width : Nat) (listed : C.models[k]? = some m) :
    StandsAt (headline C width) (labelColumn width (C.models.take k))
      (m.version.toList ++ [' ']) := by
  have stands := standsAt_flatMap (margin.toList ++ List.replicate width ' ')
    (fun m => m.version.toList ++ gap.toList) listed
  simp only [List.length_append, List.length_replicate, String.length_toList] at stands
  exact stands

theorem length_headline (C : Catalog) (width : Nat) :
    (headline C width).length = labelColumn width C.models := by
  simp only [headline, List.length_append, List.length_flatMap, List.length_replicate,
    String.length_toList]
  rfl

theorem length_cell (m : Model) (present : Bool) : (cell m present).toList.length = cellWidth m :=
  (isCell_cell m present).length

theorem standsAt_line (C : Catalog) (width : Nat) (row : Row) (listed : C.models[k]? = some m) :
    StandsAt (line C width row)
      (labelColumn width (C.models.take k) + surplus (C.models.take k))
      (cell m (row.holds m)).toList := by
  have stands := standsAt_flatMap (margin.toList ++ (fit row.dir width).toList)
    (fun m => (cell m (row.holds m)).toList) listed
  simp only [length_cell, List.length_append, (fitted_fit row.dir width).1] at stands
  rw [← sum_cellWidth]
  exact stands

theorem length_line (C : Catalog) (width : Nat) (row : Row) :
    (line C width row).length = labelColumn width C.models + surplus C.models := by
  simp only [line, List.length_append, (fitted_fit row.dir width).1, List.length_flatMap,
    length_cell]
  rw [← sum_cellWidth]
  rfl

/-- **A cell stands right of its label by the surplus of the labels before it.** Without colours,
and where a directory holds a model, a listing is a headline and a row for each directory that holds
one. The label of each model begins at its column of the headline, and its cell begins in every row
as many columns to the right as the labels before it have bytes beyond their characters; the rows
are longer than the headline by those of all labels. There are none just if these labels are ASCII:
then cells stand below their labels, and all lines have one length. -/
theorem cells_right_of_labels (inv : Inventory) (identify : Identifier) (t : FileTree)
    (selector : ModelSelector) (dirs : List String) (termWidth : Nat) :
    let models := inv.catalog.models
    let held dir := (inv.modelsIn identify t dir).1.map Catalog.Entry.model
    let shown := (dirs.filter fun dir => !(held dir).isEmpty).eraseDups
    let listing := (render false inv identify t selector dirs termWidth).1
    (∃ dir ∈ dirs, held dir ≠ []) →
      ∃ (width : Nat) (header : List Char) (rows : List (List Char)),
        listing.toList = (header :: rows).flatMap (· ++ ['\n']) ∧
        List.Forall₂ (fun dir row =>
          (∀ k m, models[k]? = some m →
            let column := labelColumn width (models.take k)
            StandsAt header column (m.version.toList ++ [' ']) ∧
            ∃ cs, StandsAt row (column + surplus (models.take k)) cs ∧
              IsCell m (∃ p ∈ held dir, p.name = m.name) cs) ∧
          row.length = header.length + surplus models) shown rows ∧
        ∀ ms, surplus ms = 0 ↔ ∀ m ∈ ms, ∀ c ∈ m.version.toList, c.toNat < 128 := by
  rintro models held shown listing ⟨dir, listed, some⟩
  obtain ⟨-, lines⟩ := toList_render inv identify t selector dirs termWidth
  refine ⟨dirsWidth inv.catalog (rowsOf held dirs) termWidth, _, _,
    lines fun none => some (rowsOf_eq_nil_iff.1 none dir listed), ?_, fun ms => surplus_eq_zero_iff⟩
  rw [rowsOf, List.map_map, List.forall₂_map_right_iff, List.forall₂_same]
  intro dir _
  refine ⟨fun k m listed => ⟨standsAt_headline _ _ listed, _, standsAt_line _ _ _ listed, ?_⟩, ?_⟩
  · have holds : (Row.holds ⟨dir, held dir⟩ m = true) = ∃ p ∈ held dir, p.name = m.name := by
      simp [Row.holds, Model.same]
    rw [← holds]
    exact isCell_cell m _
  · rw [length_headline]
    exact length_line _ _ _

/-- The catalog of the shelves, where the first label has a character that takes two bytes. -/
def accentCatalog : Catalog :=
  ⟨Loading.shelfCatalog.models.map fun m =>
    if m.name = "a" then { m with name := "é", name_ne := by decide } else m⟩

/-- With the accent both rows are one character longer than the headline. -/
theorem cells_right_of_labels_accented :
    let inv : Inventory := { catalog := accentCatalog }
    let identify := Loading.shelfEngine.identifier
    let dirs := ["one/", "two/"]
    (∃ dir ∈ dirs, (inv.modelsIn identify Loading.shelves dir).1.map Catalog.Entry.model ≠ []) ∧
      ∃ header one two : List Char,
        (render false inv identify Loading.shelves .auto dirs 80).1.toList =
          [header, one, two].flatMap (· ++ ['\n']) ∧
        one.length = header.length + 1 ∧ two.length = header.length + 1 := by
  intro inv identify dirs
  have some : ∃ dir ∈ dirs,
      (inv.modelsIn identify Loading.shelves dir).1.map Catalog.Entry.model ≠ [] :=
    ⟨"one/", by decide, by decide +kernel⟩
  obtain ⟨width, header, rows, written, each, -⟩ :=
    cells_right_of_labels inv identify Loading.shelves .auto dirs 80 some
  have shown : (dirs.filter fun dir =>
      !((inv.modelsIn identify Loading.shelves dir).1.map Catalog.Entry.model).isEmpty).eraseDups =
        ["one/", "two/"] := by
    decide +kernel
  rw [shown] at each
  obtain _ | ⟨one, _ | ⟨two, _ | _⟩⟩ := each
  exact ⟨some, header, _, _, written, one.2, two.2⟩

/-- **A label and its cell need not stand in one column.** The label `b` stands at column 8, where
in the row of a directory that holds this model no marked cell begins; and the row is longer than
the headline. -/
theorem cell_off_label :
    let inv : Inventory := { catalog := accentCatalog }
    let identify := Loading.shelfEngine.identifier
    let header := "      é b ".toList
    let row := "  one/    x".toList
    (render false inv identify Loading.shelves .auto ["one/", "two/"] 80).1.toList =
        [header, row, "  two/  x  ".toList].flatMap (· ++ ['\n']) ∧
      header.length ≠ row.length ∧
      ∃ m ∈ (inv.modelsIn identify Loading.shelves "one/").1.map Catalog.Entry.model,
        StandsAt header 8 (m.version.toList ++ [' ']) ∧
        ¬ ∃ cs, StandsAt row 8 cs ∧ IsCell m True cs := by
  intro inv identify header row
  refine ⟨by decide +kernel, by decide, accentCatalog.models[1], by decide +kernel,
    ⟨"      é ".toList, [], by decide, by decide⟩, ?_⟩
  rintro ⟨cs, ⟨before, after, split, column⟩, cell⟩
  have width : cs.length = 2 := cell.length
  have blank : cs = (row.drop 8).take 2 := by
    rw [split, ← column, ← width, List.append_assoc, List.drop_left, List.take_left]
  have marked := cell.marked trivial
  rw [blank] at marked
  exact absurd marked (by decide)

end Listing

end SynthBridge
