import LiveLog.Proofs.Viewer.Coverage
import LiveLog.Proofs.Viewer.Offset
import LiveLog.Proofs.Viewer.OpenedLine

/-! Records that arrive do not move what a user reads. A viewer that neither follows the end nor waits for
a line takes them into its buffer and leaves everything else as it is. Its offset is legal and therefore
lies within the list it had, so that the window over the longer list begins with the same row, and what
was materialized before comes first in what is materialized then. -/
namespace LiveLog.Viewer

variable {viewer later : Viewer Rat}

/-- A list that grew under a legal offset has the rows materialized before at the front of its window. -/
theorem visible_of_longer (exact_ : viewer.buffer.Exact) (exactLater : later.buffer.Exact)
    (tall : 0 < viewer.viewport.layout.rowHeight) (nonneg : 0 ≤ viewer.viewport.containerHeight)
    (legal : viewer.viewport.Legal viewer.count) (still : later.viewport = viewer.viewport)
    (longer : viewer.buffer.view <+: later.buffer.view) :
    later.window.start = viewer.window.start ∧ viewer.visibleRecords <+: later.visibleRecords := by
  have more : viewer.count ≤ later.count := by
    rw [count, count, Buffer.count_eq exact_, Buffer.count_eq exactLater]
    exact longer.length_le
  have legalLater : viewer.viewport.Legal later.count :=
    ⟨legal.1, legal.2.trans (Viewport.maxScroll_mono tall.le more)⟩
  have start : later.window.start = viewer.window.start := by
    rw [window, window, still, Viewport.window_start_of_legal tall nonneg legal,
      Viewport.window_start_of_legal tall nonneg legalLater]
  have stop : viewer.window.stop ≤ later.window.stop := by
    rw [window, window, still]
    exact viewer.viewport.window_stop_mono more
  refine ⟨start, ?_⟩
  rw [visibleRecords_eq exact_, visibleRecords_eq exactLater, start]
  apply List.IsPrefix.drop
  calc viewer.buffer.view.take viewer.window.stop
      <+: later.buffer.view.take viewer.window.stop := longer.take _
    _ <+: later.buffer.view.take later.window.stop := List.take_prefix_take_left stop

/-- Whatever was done to a viewer, while it does not follow the end and no reveal is pending, records that
arrive go into its buffer and change neither its viewport nor its location nor its status. The window
begins with the same row, and the records that were materialized before are the first of those that are
then. -/
theorem reading_undisturbed_by_records (layout : Layout Rat) (tall : 0 < layout.rowHeight)
    (job : String) (showDebug : Bool) (operations : List (Operation Rat)) :
    let viewer := (new job layout showDebug).run operations
    viewer.viewport.followTail = false → viewer.revealPending = false → ∀ records,
      viewer.append records = { viewer with buffer := viewer.buffer.append records } ∧
        (viewer.append records).window.start = viewer.window.start ∧
          viewer.visibleRecords <+: (viewer.append records).visibleRecords := by
  intro viewer unfollowed idle records
  have started : (new job layout showDebug).buffer.Exact := rfl
  have exact_ : viewer.buffer.Exact := run_exact started operations
  have taken := append_unfollowed unfollowed idle records
  have same : viewer.viewport.layout = layout := (run_steady job layout showDebug operations).2
  refine ⟨taken, ?_⟩
  rw [taken]
  refine visible_of_longer exact_ (Buffer.append_exact exact_ records) (by rwa [same])
    (run_height_nonneg job layout showDebug operations)
    (run_legal layout tall.le job showDebug operations) rfl ?_
  rw [Buffer.view_append]
  exact List.prefix_append _ _

/-- Three rows of twenty in a container of thirty, at the top: a batch of three, one of them hidden, is
taken in below the rows in sight, and the two rows kept beyond them are filled. -/
theorem three_lines_read_while_more_arrive :
    let layout : Layout Rat := ⟨20, 2, 10, 100⟩
    let line (n : UInt64) (level : Level) : Record := ⟨"12:00:00.0", "a", level, n⟩
    let operations : List (Operation Rat) :=
      [.input (.action (.resize 30)), .append [line 1 .info, line 2 .info, line 3 .info],
        .input (.action (.scrollTo 0 0))]
    let viewer := (new "job" layout false).run operations
    let batch := [line 4 .debug, line 5 .info, line 6 .info]
    0 < layout.rowHeight ∧ viewer.viewport.followTail = false ∧ viewer.revealPending = false ∧
      viewer.visibleRecords = [line 1 .info, line 2 .info, line 3 .info] ∧
      (viewer.append batch).visibleRecords =
        [line 1 .info, line 2 .info, line 3 .info, line 5 .info] ∧
      viewer.append batch = { viewer with buffer := viewer.buffer.append batch } ∧
      (viewer.append batch).window.start = viewer.window.start ∧
        viewer.visibleRecords <+: (viewer.append batch).visibleRecords := by
  intro layout line operations viewer batch
  have tall : 0 < layout.rowHeight := by decide
  have unfollowed : viewer.viewport.followTail = false := by decide +kernel
  have idle : viewer.revealPending = false := by decide +kernel
  exact ⟨tall, unfollowed, idle, by decide +kernel, by decide +kernel,
    reading_undisturbed_by_records layout tall "job" false operations unfollowed idle batch⟩

end LiveLog.Viewer
