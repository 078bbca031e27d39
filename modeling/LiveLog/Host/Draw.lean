import LiveLog.Highlight
import LiveLog.Host.Basic
import LiveLog.Screen

/-! What a host shows: the search box on top, below it a pane for every job, and the status bar at the
bottom. In fullscreen the pane in focus takes everything. Drawing a pane gives its viewer the height it
has on screen. -/
namespace LiveLog

open Screen

/-- A drawn screen, and the place of the cursor while the search box is edited. -/
structure Frame where
  grid : Grid
  cursor : Option (Nat × Nat)

namespace Host

variable {α : Type} [Scalar α]

/-- The columns of the time of day. -/
def timestampColumns : Nat := 11

/-- The columns of the line number. -/
def lineNumberColumns : Nat := 6

/-- The columns of the level. -/
def levelColumns : Nat := 6

/-- The rows of the search box. -/
def searchRows : Nat := 3

/-- The rows of the status bar. -/
def statusRows : Nat := 1

/-- The text followed by spaces up to a number of characters. -/
def padRight (columns : Nat) (text : String) : String :=
  String.ofList (text.toList ++ List.replicate (columns - text.length) ' ')

/-- The text with spaces before it up to a number of characters. -/
def padLeft (columns : Nat) (text : String) : String :=
  String.ofList (List.replicate (columns - text.length) ' ' ++ text.toList)

/-- The line of a record. A selected one is shown reversed. -/
def recordLine (record : Record) (search : Option Matcher) (selected : Bool) : Line :=
  let message := Highlight.runs record.message (Highlight.spans record.message search) {}
  let pieces : Line :=
    [⟨padRight timestampColumns record.timestamp, Style.ofFg .darkGray⟩,
      ⟨padLeft lineNumberColumns (Text.decimal record.sequence.toNat) ++ " │ ",
        Style.ofFg .darkGray⟩,
      ⟨padRight levelColumns record.level.label, record.level.style⟩] ++
    message.map fun (text, style) => ⟨text, style⟩
  if selected then pieces.map fun piece => { piece with style := piece.style.reversed } else pieces

/-- A mark in the title of a pane. -/
def mark (shown : Bool) (text : String) : String :=
  if shown then text else ""

/-- The title of an open pane. -/
def paneTitle (viewer : Viewer α) : String :=
  " " ++ viewer.job ++ " [" ++ Text.decimal viewer.buffer.count ++ "/" ++
    Text.decimal viewer.buffer.total ++ "] " ++
    mark viewer.viewport.followTail "[FOLLOW] " ++
    mark viewer.buffer.filter.showVerbose "[DEBUG] " ++
    mark viewer.viewport.isFullscreen "[FULLSCREEN] "

/-- The records shown in a pane of so many rows. -/
def paneRecords (viewer : Viewer α) (rows : Nat) : List Record :=
  viewer.visibleRecords.take rows

/-- The lines of those records. -/
def paneLines (viewer : Viewer α) (rows : Nat) : List Line :=
  (paneRecords viewer rows).map fun record =>
    recordLine record viewer.buffer.filter.matcher
      (viewer.viewport.selectedLine = some record.sequence)

/-- The words shown in place of the log while the connection is lost. -/
def banner (attempts : UInt32) (error : String) : List Line :=
  [Line.ofText "Connection lost, retrying" (Style.ofFg .red).bolded,
    Line.ofText ("attempt " ++ Text.decimal attempts.toNat ++ ": " ++ error) (Style.ofFg .darkGray)]

/-- What an open pane shows inside its border. -/
def drawViewer (grid : Grid) (area : Area) (border : Style) (viewer : Viewer α) : Grid :=
  let inner := area.inner
  let panel (fill : Style) := writePanel grid area (paneTitle viewer) border fill
  match viewer.status with
  | .reconnecting attempts error => writeCentred (panel {}) inner (banner attempts error)
  | .connecting =>
    if viewer.buffer.total = 0 then
      writeLines (panel (Style.ofFg .darkGray)) inner [Line.ofText "Connecting..." {}]
    else writeLines (panel {}) inner (paneLines viewer inner.height)
  | .live => writeLines (panel {}) inner (paneLines viewer inner.height)

/-- A pane whose job is closed. -/
def drawHidden (grid : Grid) (area : Area) (border : Style) (job : String) : Grid :=
  writeLines (writePanel grid area (" " ++ job ++ " ") border (Style.ofFg .darkGray)) area.inner
    [Line.ofText "Logs hidden, press x to stream them" {}]

/-- The pane of a job. -/
def drawPane (host : Host α) (grid : Grid) (index : Nat) (area : Area) : Host α × Grid :=
  let job := (host.jobs[index]?).getD default
  let id := InstanceId.ofJob job.job
  let border := Style.ofFg (if index = host.focused then .cyan else .darkGray)
  let rows := area.height - 2
  let host := host.coordinate (·.resize id (Scalar.ofCount rows * host.rowHeight))
  match host.coordinator.viewer? id with
  | some viewer => (host, drawViewer grid area border viewer)
  | none => (host, drawHidden grid area border job.job)

/-- The upper edge of a pane, when so many share a height. -/
def paneEdge (height count index : Nat) : Nat :=
  (2 * index * height + count) / (2 * count)

/-- The panes of all jobs below each other. -/
def drawPanes (host : Host α) (grid : Grid) (area : Area) : Host α × Grid :=
  let count := max 1 host.jobs.length
  (List.range host.jobs.length).foldl (fun (host, grid) index =>
    let top := paneEdge area.height count index
    let bottom := paneEdge area.height count (index + 1)
    host.drawPane grid index ⟨area.x, area.y + top, area.width, bottom - top⟩) (host, grid)

/-- The search box. -/
def drawSearch (host : Host α) (grid : Grid) (area : Area) : Grid :=
  let style := if host.mode = .search then Style.ofFg .yellow else {}
  writeLines (writePanel grid area " Search (/) " style style) area.inner
    ((textLines host.search.text).map (Line.ofText · {}))

/-- The words of the status bar: the message, or else what the keys do and where the focus is. -/
def statusText (host : Host α) : String :=
  match host.message with
  | some message => message
  | none =>
    "q:Quit /:Search d:Debug t:Follow v:Select z:Fullscreen x:Show/Hide Tab:Next" ++
      host.focusedViewer?.elim "" fun viewer => " | #" ++ viewer.location.token

/-- The status bar. -/
def drawStatus (host : Host α) (grid : Grid) (area : Area) : Grid :=
  let filled := grid.modifyArea area (·.styled { fg := some .white, bg := some .blue })
  writeLines filled area ((textLines host.statusText).map (Line.ofText · {}))

/-- The words of the help window. -/
def helpLines : List Line :=
  [Line.ofText "Typing filters live, case-insensitive" {},
    Line.ofText "Matches message text and timestamps" {},
    Line.ofText "Enter/Esc: Done | ←→: Move cursor" {}]

/-- The help window in the upper right corner. -/
def drawHelp (grid : Grid) : Grid :=
  let area : Area := ⟨grid.width - 48, 0, min 48 grid.width, min 5 grid.height⟩
  let cleared := grid.modifyArea area fun _ => Cell.blank
  writeLines (writePanel cleared area " Help " (Style.ofFg .green) { bg := some .black }) area.inner
    helpLines

/-- Draws the host on a screen of the given size. On a low screen the panes keep one row before all
else, the search box the next, and only then does the status bar get its own; what these leave goes to
the search box, and when it has all its rows, to the panes. -/
def draw (host : Host α) (width height : Nat) : Host α × Frame :=
  let grid := Grid.blank width height
  if host.isFullscreen then
    let (host, grid) := host.drawPane grid host.focused grid.area
    (host, ⟨grid.displayed, none⟩)
  else
    let bottom := min statusRows (height - 2)
    let top := min searchRows (height - 1 - bottom)
    let editing := host.mode = .search
    let grid := host.drawSearch grid ⟨0, 0, width, top⟩
    let (host, grid) := host.drawPanes grid ⟨0, top, width, height - top - bottom⟩
    let grid := host.drawStatus grid ⟨0, height - bottom, width, bottom⟩
    let grid := if editing then drawHelp grid else grid
    (host, ⟨grid.displayed, if editing then some (host.search.cursor + 1, 1) else none⟩)

end Host

end LiveLog
