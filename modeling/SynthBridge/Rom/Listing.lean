import SynthBridge.Rom.Presence

/-!
# The matrix of present models

A listing for people: a header with the label of every model, then a row for each directory
that holds one, with an `x` under every model it holds. Labels of models that are nowhere are
dimmed, the selected one is highlighted, and so is its first occurrence below. With the
automatic selector the selected model is the first that is anywhere.
-/

namespace SynthBridge

namespace Listing

/-! ## Colour -/

inductive Style
  | plain
  | dimmed
  | highlighted
  deriving DecidableEq, Repr

/-- The terminal's escape sequence that begins a style. -/
def Style.start : Style → List Char
  | .plain => []
  | .dimmed => "\x1b[90m".toList
  | .highlighted => "\x1b[92m".toList

/-- The escape sequence that ends every style. -/
def reset : List Char := "\x1b[0m".toList

/-- A text in which the style is taken up again after each end of a style, counting from
`skip` characters on. -/
def resumeStyle (style : List Char) : Nat → List Char → List Char
  | _, [] => []
  | skip + 1, c :: rest => c :: (if skip = 0 then style else []) ++ resumeStyle style skip rest
  | 0, c :: rest =>
    if reset.isPrefixOf (c :: rest) then c :: resumeStyle style (reset.length - 1) rest
    else c :: resumeStyle style 0 rest

/-- A text in a style; without colour every style is plain. -/
def paint (color : Bool) (style : Style) (text : String) : String :=
  if color && style != .plain then
    String.ofList (style.start ++ resumeStyle style.start 0 text.toList ++ reset)
  else text

/-! ## Layout -/

/-- What stands in front of every line, and between two labels. -/
def margin : String := "  "

def gap : String := " "

def blanks (n : Nat) : String := String.ofList (List.replicate n ' ')

/-- A directory's name padded or cut to exactly `width` characters; a cut is marked by two dots
as far as they fit. -/
def fit (dir : String) (width : Nat) : String :=
  let cs := dir.toList
  if width < cs.length then
    String.ofList (cs.take (width - 2) ++ List.replicate (min width 2) '.')
  else String.ofList (cs ++ List.replicate (width - cs.length) ' ')

/-- The columns of a model: the bytes of its label and a gap. -/
def cellWidth (m : Model) : Nat := m.version.utf8ByteSize + 1

/-- A cell, marked if the model is present. -/
def cell (m : Model) (present : Bool) : String :=
  let width := cellWidth m
  if present then
    let column := min 2 (width - 1)
    blanks column ++ "x" ++ blanks (width - 1 - column)
  else blanks width

/-- A directory and the models in it. -/
structure Row where
  dir : String
  present : List Model

/-- Whether a row holds a model of that name. -/
def Row.holds (row : Row) (m : Model) : Bool := row.present.any fun p => p.same m

/-- The rows of some directories: each directory once, and only those that hold a model. -/
def rows (inv : Inventory) (identify : Identifier) (t : FileTree) :
    List String → List Row → List Row × List Look × Inventory
  | [], done => (done, [], inv)
  | dir :: rest, done =>
    if done.any fun row => row.dir == dir then rows inv identify t rest done
    else
      let (found, looks, inv) := inv.modelsIn identify t dir
      let done := if found.isEmpty then done else done ++ [⟨dir, found.map Catalog.Entry.model⟩]
      let (done, looks', inv) := rows inv identify t rest done
      (done, looks ++ looks', inv)

/-- The name to be highlighted. -/
def highlighted (c : Catalog) (rows : List Row) : ModelSelector → Option String
  | .named name => some name
  | .auto => (c.models.find? fun m => rows.any (·.holds m)).map Model.name

/-- The width of everything beside the directory. -/
def headerWidth (c : Catalog) : Nat := c.models.foldl (fun width m => width + cellWidth m) 2

/-- The width of the directories: what the terminal leaves, but no more than the longest. -/
def dirsWidth (c : Catalog) (rows : List Row) (termWidth : Nat) : Nat :=
  min (termWidth - headerWidth c) ((rows.map (·.dir.length)).foldl max 0)

def header (color : Bool) (c : Catalog) (rows : List Row) (selected : Option String)
    (width : Nat) : String :=
  let label (m : Model) : String :=
    let style : Style :=
      if !rows.any (·.holds m) then .dimmed
      else if selected = some m.name then .highlighted
      else .plain
    paint color style m.version ++ gap
  margin ++ blanks width ++ String.join (c.models.map label) ++ "\n"

/-- The cells of a row; `marked` tells whether the selected model was already highlighted. -/
def cells (color : Bool) (row : Row) (selected : Option String) :
    List Model → Bool → String × Bool
  | [], marked => ("", marked)
  | m :: rest, marked =>
    let present := row.holds m
    let mark := present && !marked && selected == some m.name
    let text := paint color (if mark then .highlighted else .plain) (cell m present)
    let (others, marked) := cells color row selected rest (marked || mark)
    (text ++ others, marked)

/-- The lines of some rows. -/
def lines (color : Bool) (c : Catalog) (selected : Option String) (width : Nat) :
    List Row → Bool → String
  | [], _ => ""
  | row :: rest, marked =>
    let (text, marked) := cells color row selected c.models marked
    margin ++ fit row.dir width ++ text ++ "\n" ++ lines color c selected width rest marked

/-- The text of a listing with the given rows. -/
def text (color : Bool) (c : Catalog) (rows : List Row) (selector : ModelSelector)
    (termWidth : Nat) : String :=
  if rows.isEmpty then margin ++ "No supported models present.\n"
  else
    let selected := highlighted c rows selector
    let width := dirsWidth c rows termWidth
    header color c rows selected width ++ lines color c selected width rows false

/-- Looks through the directories and lists what they hold. -/
def render (color : Bool) (inv : Inventory) (identify : Identifier) (t : FileTree)
    (selector : ModelSelector) (dirs : List String) (termWidth : Nat) :
    String × List Look × Inventory :=
  let (rows, looks, inv) := rows inv identify t dirs []
  (text color inv.catalog rows selector termWidth, looks, inv)

end Listing

end SynthBridge
