import LiveLog.Style
import LiveLog.Text.Basic
import LiveLog.Text.Cluster
import LiveLog.Text.Width

/-! The cells of a terminal screen, what of them is shown, and what is written into them: lines of styled text in
a rectangle, and rectangles with a border and a title. -/
namespace LiveLog.Screen

/-- What one cell shows. A symbol two columns wide stands in the first of its cells. -/
structure Cell where
  symbol : String
  fg : Color
  bg : Color
  underline : Color
  modifiers : Modifiers
  deriving DecidableEq, Repr, Inhabited

/-- An empty cell. -/
def Cell.blank : Cell := ⟨" ", .reset, .reset, .reset, {}⟩

/-- The cell with a style laid over its own. -/
def Cell.styled (cell : Cell) (style : Style) : Cell :=
  { cell with
    fg := style.fg.getD cell.fg
    bg := style.bg.getD cell.bg
    underline := style.underline.getD cell.underline
    modifiers := (cell.modifiers.union style.modifiers).without style.removed }

/-- The cell with a symbol, and a style laid over its own. -/
def Cell.write (cell : Cell) (symbol : String) (style : Style) : Cell :=
  { cell with symbol }.styled style

/-- A terminal counts its columns and its cells in sixteen bits: from this number on it starts again at
zero. -/
def countLimit : Nat := 65536

/-- A rectangle of cells. -/
structure Area where
  x : Nat
  y : Nat
  width : Nat
  height : Nat
  deriving DecidableEq, Repr

/-- Whether a rectangle has no cells. -/
def Area.isEmpty (area : Area) : Bool :=
  area.width = 0 || area.height = 0

/-- What is left of a rectangle inside a border of one cell. -/
def Area.inner (area : Area) : Area :=
  ⟨min (area.x + 1) (area.x + area.width), min (area.y + 1) (area.y + area.height),
    area.width - 2, area.height - 2⟩

/-- The cells of a screen, row after row. -/
structure Grid where
  width : Nat
  height : Nat
  cells : Array Cell

namespace Grid

/-- An empty screen. -/
def blank (width height : Nat) : Grid :=
  ⟨width, height, Array.replicate (width * height) Cell.blank⟩

/-- The whole screen. -/
def area (grid : Grid) : Area := ⟨0, 0, grid.width, grid.height⟩

/-- The screen with one cell changed. Places outside of it are passed over. -/
def modify (grid : Grid) (x y : Nat) (change : Cell → Cell) : Grid :=
  if x < grid.width ∧ y < grid.height then
    { grid with cells := grid.cells.modify (y * grid.width + x) change }
  else grid

/-- The screen with every cell of a rectangle changed. -/
def modifyArea (grid : Grid) (area : Area) (change : Cell → Cell) : Grid :=
  (List.range area.height).foldl (fun grid row =>
    (List.range area.width).foldl (fun grid column =>
      grid.modify (area.x + column) (area.y + row) change) grid) grid

/-- The cells of a row. -/
def row (grid : Grid) (y : Nat) : List Cell :=
  (grid.cells.extract (y * grid.width) ((y + 1) * grid.width)).toList

/-- All rows. -/
def rows (grid : Grid) : List (List Cell) :=
  (List.range grid.height).map grid.row

end Grid

/-- The text of a row without the spaces it ends with. -/
def rowText (row : List Cell) : String :=
  String.ofList ((String.join (row.map Cell.symbol)).toList.reverse.dropWhile (· = ' ')).reverse

/-- Whether two cells look alike apart from their symbols. -/
def Cell.looksLike (a b : Cell) : Bool :=
  a.fg = b.fg && a.bg = b.bg && a.underline = b.underline && a.modifiers = b.modifiers

/-- The runs of cells of a row that look alike, as place, length and first cell. -/
def styleRuns (row : List Cell) : List (Nat × Nat × Cell) :=
  ((row.splitBy Cell.looksLike).foldl (fun (place, runs) run =>
    (place + run.length, (place, run.length, run.head?.getD Cell.blank) :: runs)) (0, [])).2.reverse

/-! ### What a terminal shows

The cells are sent to an empty screen one after another, and only those that look different from what is there.
A symbol two columns wide covers the cell after its own, and whatever that cell holds is not sent. -/

/-- How far a grid has been sent: what is shown, whether the next cell is covered by the symbol before
it, and how many of the next cells such a symbol has touched, so that they are sent even when they are
empty. -/
structure Sweep where
  shown : Array Cell
  covered : Bool
  touched : Nat

/-- Sends one cell, if it has to be sent. -/
def Sweep.send (sweep : Sweep) (cell : Cell) (place : Nat) : Sweep :=
  let width := Text.textWidth cell.symbol.toList
  let sent := !sweep.covered && (cell != Cell.blank || 0 < sweep.touched)
  { shown := if sent then sweep.shown.setIfInBounds (place % countLimit) cell else sweep.shown
    covered := 1 < width
    touched := max (max width 1) sweep.touched - 1 }

/-- The grid as it is shown. -/
def Grid.displayed (grid : Grid) : Grid :=
  let start : Sweep := ⟨(Grid.blank grid.width grid.height).cells, false, 0⟩
  { grid with
    cells := (grid.cells.toList.zipIdx.foldl (fun sweep (cell, place) =>
      sweep.send cell place) start).shown }

/-! ### Lines of styled text

A line too long for its place is cut, or is wrapped between words and centred. -/

/-- A piece of text in one style. -/
structure Piece where
  text : String
  style : Style
  deriving DecidableEq, Repr

/-- A line of text: its pieces from left to right. -/
abbrev Line := List Piece

/-- A line in one style. -/
def Line.ofText (text : String) (style : Style) : Line := [⟨text, style⟩]

/-- One cluster of a text, the columns it takes, and its style. -/
structure Glyph where
  cluster : List Char
  width : Nat
  style : Style
  deriving DecidableEq, Repr

/-- The columns of a glyph as the terminal counts them. -/
def Glyph.columns (glyph : Glyph) : Nat :=
  glyph.width % countLimit

/-- The glyphs of a line. Line feeds are not shown. -/
def Line.glyphs (line : Line) : List Glyph :=
  line.flatMap fun piece =>
    ((Text.clusters piece.text.toList).filter (· ≠ ['\n'])).map fun cluster =>
      ⟨cluster, Text.textWidth cluster, piece.style⟩

/-- Cuts a text into lines at its line feeds. A carriage return before one belongs to it, and there is
no line after the last one. -/
def textLines (text : String) : List String :=
  let lines := text.toList.splitBy fun a _ => a ≠ '\n'
  if lines.isEmpty then [""]
  else lines.map fun line =>
    let line := if line.getLast? = some '\n' then
        (if line.dropLast.getLast? = some '\r' then line.dropLast.dropLast else line.dropLast)
      else line
    String.ofList line

/-- The columns of a row of glyphs. -/
def widthOf (glyphs : List Glyph) : Nat :=
  glyphs.foldl (fun columns glyph => columns + glyph.columns) 0

/-- The glyphs at the front that fit in so many columns. Glyphs wider than all of them are left
out. -/
def fitting (columns used : Nat) : List Glyph → List Glyph
  | [] => []
  | glyph :: rest =>
    if columns < glyph.columns then fitting columns used rest
    else if columns < used + glyph.columns then []
    else glyph :: fitting columns (used + glyph.columns) rest

/-- Whether a line may be broken at a glyph. -/
def Glyph.isBlank (glyph : Glyph) : Bool :=
  glyph.cluster = ['\u200b'] || (glyph.cluster.all Text.isBlank && glyph.cluster ≠ ['\u00a0'])

/-- How far a line has been wrapped: the lines that are full, last first, the line that is not, the
blanks after it, and the word after those. All glyphs are kept last first. -/
structure Wrapping where
  lines : List (List Glyph)
  line : List Glyph
  blanks : List Glyph
  word : List Glyph
  afterWord : Bool

namespace Wrapping

/-- Nothing wrapped yet. -/
def start : Wrapping := ⟨[], [], [], [], false⟩

/-- The blanks left when so many columns of them fall away with the end of a line. `blanks` come first
to last. -/
def dropBlanks : Nat → List Glyph → List Glyph
  | _, [] => []
  | columns, blank :: rest =>
    if columns < blank.columns then blank :: rest else dropBlanks (columns - blank.columns) rest

/-- The word joins the line, after the blanks unless the line was empty. -/
def joinWord (wrapping : Wrapping) : Wrapping :=
  let line := if wrapping.line.isEmpty then wrapping.line else wrapping.blanks ++ wrapping.line
  { wrapping with line := wrapping.word ++ line, blanks := [], word := [] }

/-- The line is full: it is put away, and blanks up to the end of its columns fall away. -/
def breakLine (wrapping : Wrapping) (columns : Nat) : Wrapping :=
  let room := columns - widthOf wrapping.line
  { wrapping with
    lines := wrapping.line :: wrapping.lines
    line := []
    blanks := (dropBlanks room wrapping.blanks.reverse).reverse }

/-- A glyph joins the blanks or the word. -/
def gather (wrapping : Wrapping) (glyph : Glyph) : Wrapping :=
  if glyph.isBlank then
    { wrapping with blanks := glyph :: wrapping.blanks, afterWord := false }
  else { wrapping with word := glyph :: wrapping.word, afterWord := true }

/-- One glyph. A word joins the line when it has ended, or when it would not fit on a line alone; a
line is broken when it is full, or when the word after it would not fit. -/
def step (columns : Nat) (wrapping : Wrapping) (glyph : Glyph) : Wrapping :=
  if columns < glyph.columns then wrapping
  else
    let wordFound := wrapping.afterWord && glyph.isBlank
    let wordTooLong := wrapping.line.isEmpty && columns < widthOf wrapping.word + glyph.columns
    let blanksTooLong := wrapping.line.isEmpty && columns < widthOf wrapping.blanks + glyph.columns
    let joined :=
      if wordFound || wordTooLong || blanksTooLong then wrapping.joinWord else wrapping
    let used := widthOf joined.line
    let full := columns ≤ used
    let overflows :=
      0 < glyph.columns && columns ≤ used + widthOf joined.blanks + widthOf joined.word
    if full || overflows then
      let broken := joined.breakLine columns
      if glyph.isBlank && broken.blanks.isEmpty then broken else broken.gather glyph
    else joined.gather glyph

/-- The lines, first to last. A line of blanks alone stays as an empty line. -/
def finish (wrapping : Wrapping) : List (List Glyph) :=
  let blankOnly :=
    wrapping.line.isEmpty && wrapping.word.isEmpty && !wrapping.blanks.isEmpty
  let line := (if wrapping.line.isEmpty then wrapping.line else wrapping.blanks ++ wrapping.line)
  let line := wrapping.word ++ line
  let lines := if blankOnly then [] :: wrapping.lines else wrapping.lines
  let lines := if line.isEmpty then lines else line :: lines
  if lines.isEmpty then [[]] else (lines.map List.reverse).reverse

end Wrapping

/-- The lines that a row of glyphs is wrapped into. -/
def wrap (columns : Nat) (glyphs : List Glyph) : List (List Glyph) :=
  (glyphs.foldl (Wrapping.step columns) Wrapping.start).finish

/-- Writes glyphs side by side from a place on. Glyphs without columns are not shown. -/
def writeGlyphs (grid : Grid) (x y : Nat) : List Glyph → Grid
  | [] => grid
  | glyph :: rest =>
    if glyph.width = 0 then writeGlyphs grid x y rest
    else
      writeGlyphs (grid.modify x y (·.write (String.ofList glyph.cluster) glyph.style))
        (x + glyph.columns) y rest

/-- Writes rows of glyphs below each other, as many as there is room for, each with its own
indent. -/
def writeRows (grid : Grid) (area : Area) (rows : List (Nat × List Glyph)) : Grid :=
  if area.isEmpty then grid
  else
    ((rows.take area.height).zipIdx).foldl (fun grid ((indent, glyphs), y) =>
      writeGlyphs grid (area.x + indent) (area.y + y) glyphs) grid

/-- Lines that are cut where their place ends. -/
def writeLines (grid : Grid) (area : Area) (lines : List Line) : Grid :=
  writeRows grid area (lines.map fun line => (0, fitting area.width 0 line.glyphs))

/-- Lines that are wrapped and centred. -/
def writeCentred (grid : Grid) (area : Area) (lines : List Line) : Grid :=
  writeRows grid area ((lines.flatMap fun line => wrap area.width line.glyphs).map fun glyphs =>
    (area.width / 2 - widthOf glyphs / 2, glyphs))

/-! ### Rectangles with a border of single lines and a title in the upper edge -/

/-- The border of a rectangle. Where sides fall together the upper and the left one are seen. -/
def writeBorder (grid : Grid) (area : Area) (style : Style) : Grid :=
  if area.isEmpty then grid
  else
    let right := area.x + area.width - 1
    let bottom := area.y + area.height - 1
    let across (grid : Grid) (y : Nat) :=
      grid.modifyArea ⟨area.x, y, area.width, 1⟩ (·.write "─" style)
    let down (grid : Grid) (x : Nat) :=
      grid.modifyArea ⟨x, area.y, 1, area.height⟩ (·.write "│" style)
    let corner (grid : Grid) (x y : Nat) (symbol : String) :=
      grid.modify x y (·.write symbol style)
    let sides := across (down (across (down grid area.x) area.y) right) bottom
    corner (corner (corner (corner sides right bottom "┘") right area.y "┐") area.x bottom "└")
      area.x area.y "┌"

/-- The cell with a symbol joined to its own, and a style laid over its own. -/
def Cell.join (cell : Cell) (symbol : String) (style : Style) : Cell :=
  cell.write (cell.symbol ++ symbol) style

/-- Writes the glyphs of a title from a place on as far as they fit before the right edge. What comes
while no column has been taken joins the first glyph, later a glyph without columns joins the one
before it, and the cells that a wide glyph hides are emptied. `opening` tells that none has been
written yet. -/
def writeTitleGlyphs (grid : Grid) (first x y right : Nat) (opening : Bool) : List Glyph → Grid
  | [] => grid
  | glyph :: rest =>
    if right < x + glyph.columns then grid
    else
      let symbol := String.ofList glyph.cluster
      let shown :=
        if opening then grid.modify x y (·.write symbol glyph.style)
        else if x = first then grid.modify x y (·.join symbol glyph.style)
        else if glyph.width = 0 then grid.modify (x - 1) y (·.join symbol glyph.style)
        else grid.modify x y (·.write symbol glyph.style)
      let cleared := shown.modifyArea ⟨x + 1, y, glyph.columns - 1, 1⟩ fun _ => Cell.blank
      writeTitleGlyphs cleared first (x + glyph.columns) y right false rest

/-- Writes the pieces of a title side by side. Each gets the columns it takes as a whole. -/
def writeTitlePieces (grid : Grid) (area : Area) : List Piece → Grid
  | [] => grid
  | piece :: rest =>
    let width := Text.textWidth piece.text.toList
    if width = 0 then writeTitlePieces grid area rest
    else if area.isEmpty then grid
    else
      let shown :=
        writeTitleGlyphs grid area.x area.x area.y (area.x + area.width) true (Line.glyphs [piece])
      writeTitlePieces shown { area with x := area.x + width, width := area.width - width } rest

/-- Fills a rectangle with a style, draws its border, and writes a title into the upper edge. -/
def writePanel (grid : Grid) (area : Area) (title : String) (border fill : Style) : Grid :=
  let filled := grid.modifyArea area (·.styled fill)
  let bordered := writeBorder filled area border
  if area.isEmpty then bordered
  else
    let pieces := (textLines title).map fun text => (⟨text, {}⟩ : Piece)
    let width := pieces.foldl (fun width piece => width + Text.textWidth piece.text.toList) 0
    let columns := min (width % countLimit) (area.width - 2)
    writeTitlePieces bordered ⟨area.x + 1, area.y, columns, 1⟩ pieces

end LiveLog.Screen
