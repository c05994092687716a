import Mathlib.Algebra.GroupWithZero.Nat
import Mathlib.Data.List.Nodup
import SynthBridge.Proofs.Rom.Resolve
import SynthBridge.Proofs.Rom.Sheet

/-!
# A listing is a matrix

Without colours a listing is a headline and a line for every row (`Listing.toList_text`). Each row
names its directory in a place of one width (`Listing.fitted_fit`), and behind it has a cell for
every model, of a width that is the model's own (`Listing.isCell_cell`). So the models of a
directory can be read off its row (`Listing.read_of_isRow`), and no row is wider than the terminal,
unless the cells alone are: `Listing.matrix_faithful`.
-/

namespace SynthBridge

namespace Listing

variable {C : Catalog} {m : Model} {ms held : List Model} {row : Row} {rows : List Row}

/-! ## Names -/

/-- A name brought to a width: filled up with blanks, or else cut, with two dots for what was cut as
far as they fit. -/
def Fitted (name : List Char) (width : Nat) (cs : List Char) : Prop :=
  cs.length = width ∧
    (cs = name ++ List.replicate (width - name.length) ' ' ∨
      width < name.length ∧ ∃ kept, kept <+: name ∧ cs = kept ++ List.replicate (min width 2) '.')

theorem fitted_fit (dir : String) (width : Nat) :
    Fitted dir.toList width (fit dir width).toList := by
  by_cases long : width < dir.toList.length
  · simp only [fit, if_pos long, String.toList_ofList]
    refine ⟨?_, .inr ⟨long, _, List.take_prefix _ _, rfl⟩⟩
    rw [List.length_append, List.length_take, List.length_replicate]
    omega
  · simp only [fit, if_neg long, String.toList_ofList]
    refine ⟨?_, .inl rfl⟩
    rw [List.length_append, List.length_replicate]
    omega

/-! ## Cells -/

/-- A cell, one wider than its model's label has bytes: a single mark among blanks if the model is
present, and nothing but blanks otherwise. -/
structure IsCell (m : Model) (present : Prop) (cs : List Char) : Prop where
  length : cs.length = m.version.utf8ByteSize + 1
  blank : ∀ c ∈ cs, c = 'x' ∨ c = ' '
  marked : present → cs.count 'x' = 1
  unmarked : ¬ present → 'x' ∉ cs

theorem toList_blanks (n : Nat) : (blanks n).toList = List.replicate n ' ' := String.toList_ofList

theorem isCell_cell (m : Model) (present : Bool) :
    IsCell m (present = true) (cell m present).toList := by
  have other : 'x' ∉ List.replicate (cellWidth m) ' ' := by
    intro mark
    cases List.eq_of_mem_replicate mark
  cases present with
  | false =>
    rw [cell, if_neg Bool.false_ne_true, toList_blanks]
    refine ⟨List.length_replicate, ?_, ?_, fun _ => other⟩
    · intro c listed
      exact .inr (List.eq_of_mem_replicate listed)
    · rintro ⟨⟩
  | true =>
    rw [cell, if_pos rfl, String.toList_append, String.toList_append, toList_blanks, toList_blanks]
    refine ⟨?_, ?_, ?_, fun absent => absurd rfl absent⟩
    · simp [cellWidth]
      omega
    · simp [List.mem_replicate]
      tauto
    · simp [List.count_replicate]

/-! ## Lines -/

/-- The line above the rows, without colours: the label of every model. -/
def headline (C : Catalog) (width : Nat) : List Char :=
  margin.toList ++ List.replicate width ' ' ++
    C.models.flatMap fun m => m.version.toList ++ gap.toList

/-- The line of a row, without colours. -/
def line (C : Catalog) (width : Nat) (row : Row) : List Char :=
  margin.toList ++ (fit row.dir width).toList ++
    C.models.flatMap fun m => (cell m (row.holds m)).toList

theorem paint_false (style : Style) (text : String) : paint false style text = text := rfl

theorem map_text_markedCells (row : Row) (selected : Option String) (ms : List Model)
    (marked : Bool) :
    (markedCells row selected ms marked).1.map (Cell.text false) =
      ms.map fun m => cell m (row.holds m) := by
  induction ms generalizing marked with
  | nil => rfl
  | cons m rest ih =>
    simp only [markedCells, List.map_cons, ih, Cell.text, paint_false]

theorem flatMap_markedRows (C : Catalog) (selected : Option String) (width : Nat)
    (rows : List Row) (marked : Bool) :
    ((markedRows C selected rows marked).map (MarkedRow.text false width)).flatMap String.toList =
      (rows.map (line C width)).flatMap (· ++ ['\n']) := by
  induction rows generalizing marked with
  | nil => rfl
  | cons row rest ih =>
    simp only [markedRows, List.map_cons, List.flatMap_cons, ih, MarkedRow.text,
      map_text_markedCells, line, String.toList_append, String.toList_join, List.flatMap_map]
    rfl

theorem flatMap_label (C : Catalog) (rows : List Row) (selector : ModelSelector) :
    ((Sheet.ofRows C rows selector).labels.map (Cell.label false)).flatMap String.toList =
      C.models.flatMap fun m => m.version.toList ++ gap.toList := by
  simp only [Sheet.ofRows, List.flatMap_map, Cell.label, labelOf, paint_false,
    String.toList_append]

/-- **The lines of a listing**, without colours: the headline, and one for each row. -/
theorem toList_text (C : Catalog) (some : rows ≠ []) (selector : ModelSelector)
    (termWidth : Nat) :
    (text false C rows selector termWidth).toList =
      (headline C (dirsWidth C rows termWidth) ::
        rows.map (line C (dirsWidth C rows termWidth))).flatMap (· ++ ['\n']) := by
  have lines : (Sheet.ofRows C rows selector).lines.isEmpty = false := by
    cases rows with
    | nil => exact absurd rfl some
    | cons row rest => rfl
  rw [text_eq_write, Sheet.write, lines, if_neg Bool.false_ne_true]
  simp only [String.toList_append, String.toList_join, flatMap_label, toList_blanks]
  rw [Sheet.ofRows, flatMap_markedRows, List.flatMap_cons]
  rfl

/-! ## Rows -/

/-- The row of a directory: two blanks, its name, and a cell for every model. -/
def IsRow (ms held : List Model) (dir : String) (width : Nat) (row : List Char) : Prop :=
  ∃ (name : List Char) (cells : List (List Char)),
    row = [' ', ' '] ++ name ++ cells.flatten ∧ Fitted dir.toList width name ∧
      List.Forall₂ (fun m => IsCell m (m ∈ held)) ms cells

theorem isRow_line (holds : ∀ m ∈ C.models, row.holds m = true ↔ m ∈ row.present) (width : Nat) :
    IsRow C.models row.present row.dir width (line C width row) := by
  refine ⟨(fit row.dir width).toList, C.models.map fun m => (cell m (row.holds m)).toList, ?_,
    fitted_fit row.dir width, ?_⟩
  · rw [← List.flatMap_def]
    rfl
  · rw [List.forall₂_map_right_iff, List.forall₂_same]
    intro m listed
    rw [← holds m listed]
    exact isCell_cell m (row.holds m)

/-- The models that are marked in their cells. -/
def marked : List Model → List Char → List Model
  | [], _ => []
  | m :: rest, cs =>
    let others := marked rest (cs.drop (cellWidth m))
    if 'x' ∈ cs.take (cellWidth m) then m :: others else others

/-- The models that are read off a row, whose cells are at its end. -/
def read (ms : List Model) (row : List Char) : List Model :=
  marked ms (row.drop (row.length - (ms.map cellWidth).sum))

section Cells

variable {cells : List (List Char)} (h : List.Forall₂ (fun m => IsCell m (m ∈ held)) ms cells)

include h

theorem length_flatten_cells : cells.flatten.length = (ms.map cellWidth).sum := by
  induction h with
  | nil => rfl
  | cons here _ ih =>
    rw [List.flatten_cons, List.length_append, here.length, ih, List.map_cons, List.sum_cons]
    rfl

theorem marked_flatten_cells : marked ms cells.flatten = ms.filter (· ∈ held) := by
  induction h with
  | nil => rfl
  | @cons m cs ms cells here _ ih =>
    have width : cs.length = cellWidth m := here.length
    rw [List.flatten_cons, marked, ← width, List.drop_left, List.take_left, ih]
    by_cases present : m ∈ held
    · have mark : 'x' ∈ cs := List.count_pos_iff.1 (by rw [here.marked present]; exact Nat.one_pos)
      rw [if_pos mark, List.filter_cons_of_pos (by simpa using present)]
    · rw [if_neg (here.unmarked present), List.filter_cons_of_neg (by simpa using present)]

end Cells

section IsRow

variable {dir : String} {width : Nat} {cs : List Char} (h : IsRow ms held dir width cs)

include h

theorem length_of_isRow : cs.length = 2 + width + (ms.map cellWidth).sum := by
  obtain ⟨name, cells, rfl, ⟨named, -⟩, each⟩ := h
  rw [List.length_append, List.length_append, named, length_flatten_cells each]
  rfl

/-- **The models that a directory holds are read off its row.** -/
theorem read_of_isRow : read ms cs = ms.filter (· ∈ held) := by
  have length := length_of_isRow h
  obtain ⟨name, cells, rfl, ⟨named, -⟩, each⟩ := h
  have front : ([' ', ' '] ++ name).length = 2 + width := by
    rw [List.length_append, named]
    rfl
  rw [read, length, Nat.add_sub_cancel, ← front, List.drop_left, marked_flatten_cells each]

end IsRow

/-! ## Widths -/

theorem foldl_cellWidth (ms : List Model) (start : Nat) :
    ms.foldl (fun width m => width + cellWidth m) start = start + (ms.map cellWidth).sum := by
  induction ms generalizing start with
  | nil => rfl
  | cons m rest ih => rw [List.foldl_cons, ih, List.map_cons, List.sum_cons, Nat.add_assoc]

/-- The rows are no wider than the terminal, unless the cells alone are. -/
theorem dirsWidth_le (C : Catalog) (rows : List Row) (termWidth : Nat) :
    2 + dirsWidth C rows termWidth + (C.models.map cellWidth).sum ≤
      max termWidth (2 + (C.models.map cellWidth).sum) := by
  rw [dirsWidth, headerWidth, foldl_cellWidth]
  omega

/-! ## What directories hold -/

theorem filter_mem_of_sublist {α : Type} [DecidableEq α] {l l' : List α} (sub : l.Sublist l')
    (nodup : l'.Nodup) : l'.filter (· ∈ l) = l := by
  have kept : l.Sublist (l'.filter (· ∈ l)) := by
    simpa only [List.filter_eq_self.2 fun a listed => decide_eq_true listed] using
      sub.filter (· ∈ l)
  have same : l.Perm (l'.filter (· ∈ l)) := by
    rw [List.perm_ext_iff_of_nodup (nodup.sublist sub) (nodup.filter _)]
    intro a
    rw [List.mem_filter, decide_eq_true_iff]
    exact ⟨fun listed => ⟨sub.subset listed, listed⟩, And.right⟩
  exact (kept.eq_of_length same.length_eq).symm

/-- The models that a directory is said to hold are some of the catalog's, in its order. -/
theorem sublist_modelsIn (inv : Inventory) (identify : Identifier) (t : FileTree) (dir : String) :
    ((inv.modelsIn identify t dir).1.map Catalog.Entry.model).Sublist inv.catalog.models := by
  rw [← inv.catalog.map_model_entries, Inventory.modelsIn_fst]
  exact List.filter_sublist.map _

/-! ## The matrix -/

theorem rowsOf_eq_nil_iff {found : String → List Model} {dirs : List String} :
    rowsOf found dirs = [] ↔ ∀ dir ∈ dirs, found dir = [] := by
  simp only [rowsOf, List.map_eq_nil_iff, List.eq_nil_iff_forall_not_mem (l := List.eraseDups _),
    List.mem_eraseDups, List.mem_filter, Bool.not_eq_true', List.isEmpty_eq_false_iff, not_and,
    not_not]

/-- The lines of what is found in directories, without colours. -/
theorem toList_render (inv : Inventory) (identify : Identifier) (t : FileTree)
    (selector : ModelSelector) (dirs : List String) (termWidth : Nat) :
    let rows := rowsOf (fun dir => (inv.modelsIn identify t dir).1.map Catalog.Entry.model) dirs
    let width := dirsWidth inv.catalog rows termWidth
    (rows = [] → (render false inv identify t selector dirs termWidth).1 =
      "  No supported models present.\n") ∧
    (rows ≠ [] → (render false inv identify t selector dirs termWidth).1.toList =
      (headline inv.catalog width :: rows.map (line inv.catalog width)).flatMap (· ++ ['\n'])) := by
  intro rows width
  have found : (Listing.rows inv identify t dirs []).1 = rows := by simp [rows_fst, rows]
  have rendered : (render false inv identify t selector dirs termWidth).1 =
      text false inv.catalog rows selector termWidth := by
    simp only [render, catalog_rows, found]
  rw [rendered]
  refine ⟨fun none => ?_, fun some => toList_text inv.catalog some selector termWidth⟩
  rw [none]
  rfl

/-- **A listing is a faithful matrix.** Without colours, and where no two models of the catalog have
one name, the listing of some directories tells that there is no model where none of them holds one.
Otherwise it is a headline and a row for each directory that holds a model, once and in the order in
which they come first. A row is two blanks, the directory's name brought to the width that all rows
have for it, and a cell for every model of the catalog in its order, marked if the model is present.
So the models of a directory are read off its row, and all rows have one length, which is at most
the larger of the terminal's width and of what a row takes without the name. What a directory is
said to hold is what the files give, unless something else is remembered of them. -/
theorem matrix_faithful (inv : Inventory) (distinct : inv.catalog.names.Nodup)
    (identify : Identifier) (t : FileTree) (selector : ModelSelector) (dirs : List String)
    (termWidth : Nat) :
    let models := inv.catalog.models
    let held dir := (inv.modelsIn identify t dir).1.map Catalog.Entry.model
    let shown := (dirs.filter fun dir => !(held dir).isEmpty).eraseDups
    let cellsWidth := (models.map fun m => m.version.utf8ByteSize + 1).sum
    let width := min (termWidth - (2 + cellsWidth)) ((shown.map String.length).foldl max 0)
    let listing := (render false inv identify t selector dirs termWidth).1
    ((∀ dir ∈ dirs, held dir = []) → listing = "  No supported models present.\n") ∧
    ((∃ dir ∈ dirs, held dir ≠ []) → ∃ rows : List (List Char),
      listing.toList = (headline inv.catalog width :: rows).flatMap (· ++ ['\n']) ∧
      List.Forall₂ (fun dir row => IsRow models (held dir) dir width row ∧
        read models row = held dir ∧ row.length = 2 + width + cellsWidth) shown rows ∧
      2 + width + cellsWidth ≤ max termWidth (2 + cellsWidth)) ∧
    (inv.Truthful identify t → ∀ dir, held dir = holdings inv.catalog identify t dir) := by
  intro models held shown cellsWidth width listing
  obtain ⟨without, lines⟩ := toList_render inv identify t selector dirs termWidth
  have size : dirsWidth inv.catalog (rowsOf held dirs) termWidth = width := by
    rw [dirsWidth, headerWidth, foldl_cellWidth, rowsOf, List.map_map]
    rfl
  refine ⟨fun none => without (rowsOf_eq_nil_iff.2 none), ?_, ?_⟩
  · rintro ⟨dir, listed, some⟩
    have nonempty : rowsOf held dirs ≠ [] := fun none => some (rowsOf_eq_nil_iff.1 none dir listed)
    refine ⟨(rowsOf held dirs).map (line inv.catalog width), ?_, ?_, size ▸ dirsWidth_le ..⟩
    · rw [← size]
      exact lines nonempty
    · rw [rowsOf, List.map_map, List.forall₂_map_right_iff, List.forall₂_same]
      intro dir _
      -- Cells ask for a name; with distinct names that is to ask for the model.
      have within := sublist_modelsIn inv identify t dir
      have row : IsRow models (held dir) dir width (line inv.catalog width ⟨dir, held dir⟩) :=
        isRow_line (fun m listed => holds_iff_mem distinct within.subset listed) width
      refine ⟨row, ?_, length_of_isRow row⟩
      rw [Function.comp_apply, read_of_isRow row]
      exact filter_mem_of_sublist within (.of_map _ distinct)
  · intro truthful dir
    simp only [held, holdings, (truthful.modelsIn dir).1]

/-- On the shelves there are two rows, one for the directory that is named twice; both names are
cut, since the terminal has but three characters for them. -/
theorem matrix_faithful_narrow :
    let inv : Inventory := { catalog := Loading.shelfCatalog }
    let identify := Loading.shelfEngine.identifier
    let dirs := ["one/", "none/", "one/", "two/"]
    let listing := (render false inv identify Loading.shelves .auto dirs 9).1
    inv.catalog.names.Nodup ∧ inv.Truthful identify Loading.shelves ∧
      (∃ dir ∈ dirs, (inv.modelsIn identify Loading.shelves dir).1.map Catalog.Entry.model ≠ []) ∧
      listing = "     a b \n  o..   x\n  t.. x  \n" ∧
      ∃ header rows, listing.toList = (header :: rows).flatMap (· ++ ['\n']) ∧
        rows.map (read inv.catalog.models) =
          ["one/", "two/"].map (holdings inv.catalog identify Loading.shelves) := by
  intro inv identify dirs listing
  have distinct : inv.catalog.names.Nodup := by decide
  have new : inv.Truthful identify Loading.shelves := Inventory.truthful_of_known_eq_nil rfl
  have some : ∃ dir ∈ dirs,
      (inv.modelsIn identify Loading.shelves dir).1.map Catalog.Entry.model ≠ [] :=
    ⟨"one/", by decide, by decide +kernel⟩
  obtain ⟨-, matrix, known⟩ :=
    matrix_faithful inv distinct identify Loading.shelves .auto dirs 9
  obtain ⟨rows, written, each, -⟩ := matrix some
  have shown : (dirs.filter fun dir =>
      !((inv.modelsIn identify Loading.shelves dir).1.map Catalog.Entry.model).isEmpty).eraseDups =
        ["one/", "two/"] := by
    decide +kernel
  rw [shown] at each
  refine ⟨distinct, new, some, by decide +kernel, _, rows, written, ?_⟩
  symm
  rw [← List.forall₂_eq_eq_eq, List.forall₂_map_left_iff, List.forall₂_map_right_iff]
  exact each.imp fun dir row told => (told.2.1.trans (known new dir)).symm

end Listing

end SynthBridge
