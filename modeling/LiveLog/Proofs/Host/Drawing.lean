import LiveLog.Host.Draw
import LiveLog.Proofs.Coordinator.Viewers

/-! What a draw does to a host and to the screen, pane by pane. The panes and their places are settled
before the first of them is drawn. Drawing one resizes the viewer it shows and changes nothing else in the
host. -/
namespace LiveLog

open Screen

/-- Whether the pane of a viewer shows the rows of its log: while the connection is up, and before that
if there are any. -/
def Viewer.ShowsLog {α : Type} (viewer : Viewer α) : Prop :=
  match viewer.status with
  | .live => True
  | .connecting => viewer.buffer.total ≠ 0
  | .reconnecting _ _ => False

namespace Host

variable {α : Type}

/-- A pane: the place in the list of the job it shows, and its rectangle. -/
structure Pane where
  index : Nat
  area : Area
  deriving DecidableEq

/-- The rows of a pane inside its border. -/
def Pane.rows (pane : Pane) : Nat := pane.area.height - 2

/-- The instance shown in a pane. -/
def shownId (host : Host α) (pane : Pane) : InstanceId :=
  .ofJob ((host.jobs[pane.index]?).getD default).job

/-- The rows a screen has left for the search box. -/
def searchHeight (height : Nat) : Nat :=
  min searchRows (height - 1 - min statusRows (height - 2))

/-- The place of all panes together. -/
def stackArea (width height : Nat) : Area :=
  ⟨0, searchHeight height, width, height - searchHeight height - min statusRows (height - 2)⟩

/-- A pane for every job, below each other. -/
def stack (host : Host α) (area : Area) : List Pane :=
  let count := max 1 host.jobs.length
  (List.range host.jobs.length).map fun index =>
    let top := paneEdge area.height count index
    let bottom := paneEdge area.height count (index + 1)
    ⟨index, ⟨area.x, area.y + top, area.width, bottom - top⟩⟩

variable [Scalar α]

/-- The panes of a draw in their order. In fullscreen there is one. -/
def panes (host : Host α) (width height : Nat) : List Pane :=
  if host.isFullscreen then [⟨host.focused, ⟨0, 0, width, height⟩⟩]
  else host.stack (stackArea width height)

/-- The viewer shown in a pane takes the height it has there. -/
def sized (host : Host α) (pane : Pane) : Host α :=
  { host with
    coordinator := (host.coordinator.act (host.shownId pane)
      (.resize (Scalar.ofCount pane.rows * host.rowHeight))).1 }

/-- The screen before the first pane is drawn. -/
def canvas (host : Host α) (width height : Nat) : Grid :=
  if host.isFullscreen then Grid.blank width height
  else host.drawSearch (Grid.blank width height) ⟨0, 0, width, searchHeight height⟩

/-- The host and the screen after some panes of a draw. -/
def painted (host : Host α) (width height : Nat) (panes : List Pane) : Host α × Grid :=
  panes.foldl (fun (host, grid) pane => host.drawPane grid pane.index pane.area)
    (host, host.canvas width height)

theorem drawPane_fst (host : Host α) (grid : Grid) (pane : Pane) :
    (host.drawPane grid pane.index pane.area).1 = host.sized pane := by
  unfold drawPane
  dsimp only
  split <;> rfl

/-- The viewer of an open pane is drawn after it was resized. -/
theorem drawPane_open {host : Host α} {pane : Pane} {viewer : Viewer α}
    (open_ : (host.sized pane).coordinator.viewer? (host.shownId pane) = some viewer) (grid : Grid) :
    (host.drawPane grid pane.index pane.area).2 =
      drawViewer grid pane.area
        (Style.ofFg (if pane.index = host.focused then .cyan else .darkGray)) viewer := by
  unfold drawPane
  dsimp only
  split
  · rename_i other found
    cases found.symm.trans open_
    rfl
  · rename_i missing
    cases missing.symm.trans open_

/-- A viewer that shows its log is drawn as a panel with a line for each record shown. -/
theorem drawViewer_log {viewer : Viewer α} (shows : viewer.ShowsLog) (grid : Grid) (area : Area)
    (border : Style) :
    drawViewer grid area border viewer =
      writeLines (writePanel grid area (paneTitle viewer) border {}) area.inner
        (paneLines viewer area.inner.height) := by
  unfold Viewer.ShowsLog at shows
  cases status : viewer.status with
  | live => rw [drawViewer, status]
  | connecting =>
    rw [status] at shows
    rw [drawViewer, status]
    exact if_neg shows
  | reconnecting attempts error =>
    rw [status] at shows
    exact shows.elim

theorem drawPanes_eq (host : Host α) (grid : Grid) (area : Area) :
    host.drawPanes grid area =
      (host.stack area).foldl (fun (host, grid) pane => host.drawPane grid pane.index pane.area)
        (host, grid) := by
  rw [drawPanes, stack, List.foldl_map]

theorem painted_fst (host : Host α) (width height : Nat) (panes : List Pane) :
    (host.painted width height panes).1 = panes.foldl sized host := by
  unfold painted
  generalize host.canvas width height = grid
  induction panes generalizing host grid with
  | nil => rfl
  | cons pane panes ih =>
    rw [List.foldl_cons, List.foldl_cons, ← host.drawPane_fst grid pane]
    exact ih _ _

/-- A draw paints the panes on the canvas. In fullscreen that is all; otherwise the status bar follows,
and the help window while the search box is edited. -/
theorem draw_eq (host : Host α) (width height : Nat) :
    host.draw width height =
      let painted := host.painted width height (host.panes width height)
      let bottom := min statusRows (height - 2)
      let status := painted.1.drawStatus painted.2 ⟨0, height - bottom, width, bottom⟩
      (painted.1,
        if host.isFullscreen then ⟨painted.2.displayed, none⟩
        else if host.mode = .search then
          ⟨(drawHelp status).displayed, some (painted.1.search.cursor + 1, 1)⟩
        else ⟨status.displayed, none⟩) := by
  cases full : host.isFullscreen with
  | true =>
    simp only [draw, painted, panes, canvas, full, if_true, List.foldl_cons, List.foldl_nil]
    rfl
  | false =>
    simp only [draw, painted, panes, canvas, full, Bool.false_eq_true, if_false, drawPanes_eq]
    by_cases editing : host.mode = .search
    · simp only [editing, if_true]
      rfl
    · simp only [editing, if_false]
      rfl

/-- In a draw of a size, the pane of a viewer is drawn on a screen and gives another. The viewer is the
one shown, with the height it has there. -/
def Draws (host : Host α) (width height : Nat) (pane : Pane) (viewer : Viewer α)
    (before after : Grid) : Prop :=
  ∃ earlier later drawing, host.panes width height = earlier ++ pane :: later ∧
    host.painted width height earlier = (drawing, before) ∧
    (drawing.sized pane).coordinator.viewer? (drawing.shownId pane) = some viewer ∧
    (drawing.drawPane before pane.index pane.area).2 = after

end Host

end LiveLog
