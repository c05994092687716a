import Mathlib.Data.List.Nodup
import SynthBridge.Proofs.Rom.Survey

/-!
# A listing before it is written

A listing is a label for every model of the catalog and, for every directory with a model, a cell
for every model, each in a style of its own. `Listing.Sheet` is that, and `Listing.text` is what
writing it down gives (`Listing.text_eq_write`). Of all cells one is highlighted, in the first row
that holds the selected model (`Listing.find?_markedRows`).
-/

namespace SynthBridge

namespace Listing

/-! ## Rows -/

/-- A row holds the models that it lists, where no two of the catalog have one name. -/
theorem holds_iff_mem {C : Catalog} {row : Row} {m : Model} (distinct : C.names.Nodup)
    (within : row.present ⊆ C.models) (listed : m ∈ C.models) :
    row.holds m = true ↔ m ∈ row.present := by
  rw [Row.holds, List.any_eq_true]
  constructor
  · rintro ⟨p, there, same⟩
    have equal : p = m :=
      List.inj_on_of_nodup_map distinct (within there) listed (by simpa [Model.same] using same)
    exact equal ▸ there
  · intro there
    exact ⟨m, there, by simp [Model.same]⟩

/-! ## Cells -/

/-- A label or a cell: its model, whether that is present, and the style. -/
structure Cell where
  model : Model
  present : Bool
  style : Style

def Cell.isHighlighted (c : Cell) : Bool := c.style == .highlighted

/-- A row of cells, and its directory. -/
structure MarkedRow where
  dir : String
  cells : List Cell

/-- Whether a row holds a model of the selected name. -/
def Row.isSelected (row : Row) (selected : Option String) (m : Model) : Bool :=
  row.holds m && selected == some m.name

/-- The cells of a row, and whether the selected model is highlighted by then. -/
def markedCells (row : Row) (selected : Option String) : List Model → Bool → List Cell × Bool
  | [], marked => ([], marked)
  | m :: rest, marked =>
    let mark := !marked && row.isSelected selected m
    let (others, marked) := markedCells row selected rest (marked || mark)
    (⟨m, row.holds m, if mark then .highlighted else .plain⟩ :: others, marked)

def Cell.label (color : Bool) (c : Cell) : String := paint color c.style c.model.version ++ gap

def Cell.text (color : Bool) (c : Cell) : String := paint color c.style (cell c.model c.present)

theorem cells_eq (color : Bool) (row : Row) (selected : Option String) (ms : List Model)
    (marked : Bool) :
    cells color row selected ms marked =
      (String.join ((markedCells row selected ms marked).1.map (Cell.text color)),
        (markedCells row selected ms marked).2) := by
  induction ms generalizing marked with
  | nil => rfl
  | cons m rest ih =>
    have mark : (row.holds m && !marked && selected == some m.name) =
        (!marked && row.isSelected selected m) := by
      rw [Row.isSelected, Bool.and_comm (row.holds m), Bool.and_assoc]
    simp only [cells, markedCells, mark, ih, List.map_cons, String.join_cons, Cell.text]

/-- A row is highlighted where it holds the selected model and no row before it does. -/
theorem markedCells_spec (row : Row) (selected : Option String) (ms : List Model) (marked : Bool) :
    (markedCells row selected ms marked).1.any Cell.isHighlighted =
        (!marked && ms.any (row.isSelected selected)) ∧
      (markedCells row selected ms marked).2 = (marked || ms.any (row.isSelected selected)) := by
  induction ms generalizing marked with
  | nil => simp [markedCells]
  | cons m rest ih =>
    obtain ⟨highlighted, flag⟩ := ih (marked || (!marked && row.isSelected selected m))
    simp only [markedCells, List.any_cons, highlighted, flag]
    cases marked <;> cases row.isSelected selected m <;>
      simp [Cell.isHighlighted]

/-! ## Sheets -/

/-- The rows of cells. -/
def markedRows (C : Catalog) (selected : Option String) : List Row → Bool → List MarkedRow
  | [], _ => []
  | row :: rest, marked =>
    let (cells, marked) := markedCells row selected C.models marked
    ⟨row.dir, cells⟩ :: markedRows C selected rest marked

/-- **The one row with a highlighted cell** is the first that holds the selected model. -/
theorem find?_markedRows (C : Catalog) (selected : Option String) (rows : List Row)
    (marked : Bool) :
    ((markedRows C selected rows marked).find? fun line => line.cells.any Cell.isHighlighted).map
        MarkedRow.dir =
      if marked then none
      else (rows.find? fun row => C.models.any (row.isSelected selected)).map Row.dir := by
  induction rows generalizing marked with
  | nil => simp [markedRows]
  | cons row rest ih =>
    obtain ⟨highlighted, flag⟩ := markedCells_spec row selected C.models marked
    simp only [markedRows, List.find?_cons, highlighted, flag]
    cases marked with
    | true => simpa using ih true
    | false =>
      cases here : C.models.any (row.isSelected selected) with
      | true => rfl
      | false => simpa using ih false

/-- A listing before it is written. -/
structure Sheet where
  labels : List Cell
  lines : List MarkedRow

/-- The label of a model, given the rows and the selected name. -/
def labelOf (rows : List Row) (selected : Option String) (m : Model) : Cell where
  model := m
  present := rows.any (·.holds m)
  style :=
    if !rows.any (·.holds m) then .dimmed
    else if selected = some m.name then .highlighted
    else .plain

def Sheet.ofRows (C : Catalog) (rows : List Row) (selector : ModelSelector) : Sheet where
  labels := C.models.map (labelOf rows (highlighted C rows selector))
  lines := markedRows C (highlighted C rows selector) rows false

def MarkedRow.text (color : Bool) (width : Nat) (line : MarkedRow) : String :=
  margin ++ fit line.dir width ++ String.join (line.cells.map (Cell.text color)) ++ "\n"

/-- Writes a listing down, with the given width for the directories. -/
def Sheet.write (color : Bool) (width : Nat) (s : Sheet) : String :=
  if s.lines.isEmpty then margin ++ "No supported models present.\n"
  else
    margin ++ blanks width ++ String.join (s.labels.map (Cell.label color)) ++ "\n" ++
      String.join (s.lines.map (MarkedRow.text color width))

theorem lines_eq (color : Bool) (C : Catalog) (selected : Option String) (width : Nat)
    (rows : List Row) (marked : Bool) :
    lines color C selected width rows marked =
      String.join ((markedRows C selected rows marked).map (MarkedRow.text color width)) := by
  induction rows generalizing marked with
  | nil => rfl
  | cons row rest ih =>
    simp only [lines, markedRows, cells_eq, ih, List.map_cons, String.join_cons, MarkedRow.text]

/-- **A listing is its sheet written down.** -/
theorem text_eq_write (color : Bool) (C : Catalog) (rows : List Row) (selector : ModelSelector)
    (termWidth : Nat) :
    text color C rows selector termWidth =
      (Sheet.ofRows C rows selector).write color (dirsWidth C rows termWidth) := by
  cases rows with
  | nil => rfl
  | cons row rest =>
    simp only [text, Sheet.write, Sheet.ofRows, header, lines_eq, List.map_map]
    rfl

/-- The sheet of a listing. -/
def sheet (inv : Inventory) (identify : Identifier) (t : FileTree) (selector : ModelSelector)
    (dirs : List String) : Sheet :=
  .ofRows inv.catalog (Listing.rows inv identify t dirs []).1 selector

theorem render_eq_write (color : Bool) (inv : Inventory) (identify : Identifier) (t : FileTree)
    (selector : ModelSelector) (dirs : List String) (termWidth : Nat) :
    (render color inv identify t selector dirs termWidth).1 =
      (sheet inv identify t selector dirs).write color
        (dirsWidth inv.catalog (Listing.rows inv identify t dirs []).1 termWidth) := by
  simp only [render, text_eq_write, catalog_rows, sheet]

end Listing

end SynthBridge
