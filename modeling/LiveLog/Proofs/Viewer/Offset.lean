import LiveLog.Proofs.Viewer.Operations
import LiveLog.Proofs.Viewport.Geometry

/-! The offset of a viewer is always legal: it leaves no room above the list and none below it. Every way
to move the view either brings the offset into the list as that then is, or leaves it where it was over a
list that did not get shorter. -/
namespace LiveLog.Viewer

variable {viewer later : Viewer Rat} {operation : Operation Rat}

/-- Every way to move the view of a viewer keeps its offset legal. -/
theorem Turn.legal (turn : Turn viewer operation later)
    (flat : 0 ≤ viewer.viewport.layout.rowHeight)
    (legal : viewer.viewport.Legal viewer.count) : later.viewport.Legal later.count := by
  cases turn with
  | stayed line full unscrolled unrenewed view longer kept idle =>
    rw [view]
    exact ⟨legal.1, legal.2.trans (Viewport.maxScroll_mono flat longer)⟩
  | pinned height unscrolled follows view alone =>
    rw [view]
    exact ⟨Viewport.maxScroll_nonneg _ _, le_rfl⟩
  | placed height target line unscrolled cause view =>
    rw [view]
    exact Viewport.clampOffset_bounds { viewer.viewport with containerHeight := height } _ target
  | released line unscrolled cause view kept =>
    rw [view, kept]
    exact legal
  | reset unscrolled cause view =>
    rcases view with view | ⟨target, view⟩
    · rw [view]
      exact ⟨le_rfl, Viewport.maxScroll_nonneg _ _⟩
    · rw [view]
      exact Viewport.clampOffset_bounds viewer.viewport _ target
  | switchedOn cause view alone =>
    rw [view]
    exact ⟨Viewport.maxScroll_nonneg _ _, le_rfl⟩
  | switchedOff cause view kept =>
    rw [view, kept]
    exact legal
  | scrolled target now scrolls view kept alone =>
    rw [view, kept]
    exact Viewport.clampOffset_bounds viewer.viewport _ target
  | settled due now cause armed reached view kept alone =>
    rw [view, kept]
    exact legal

/-- The offset of a viewer just made is that of an empty list. -/
theorem new_legal (job : String) (layout : Layout Rat) (showDebug : Bool) :
    (new job layout showDebug).viewport.Legal (new job layout showDebug).count :=
  ⟨le_rfl, Viewport.maxScroll_nonneg _ _⟩

theorem run_legal (layout : Layout Rat) (flat : 0 ≤ layout.rowHeight) (job : String)
    (showDebug : Bool) (operations : List (Operation Rat)) :
    ((new job layout showDebug).run operations).viewport.Legal
      ((new job layout showDebug).run operations).count := by
  induction operations using List.reverseRecOn with
  | nil => exact new_legal job layout showDebug
  | append_singleton operations operation ih =>
    obtain ⟨undistracted, same⟩ := run_steady job layout showDebug operations
    rw [run_concat]
    exact (after_turn undistracted operation).legal (by rwa [same]) ih

/-- The height of a container is not negative, whatever was done to its viewer. -/
theorem run_height_nonneg (job : String) (layout : Layout Rat) (showDebug : Bool)
    (operations : List (Operation Rat)) :
    0 ≤ ((new job layout showDebug).run operations).viewport.containerHeight := by
  induction operations using List.reverseRecOn with
  | nil => exact le_rfl
  | append_singleton operations operation ih =>
    rw [run_concat, after_height]
    cases operation.height? with
    | none => exact ih
    | some height =>
      rw [Option.elim_some, Scalar.atLeastZero_eq]
      exact le_max_left 0 height

/-- Whatever is done to a viewer, its offset is not below zero, and not above the height of the rows its
filter admits, less that of the container, as long as this is not below zero. -/
theorem scroll_offset_stays_legal (layout : Layout Rat) (tall : 0 < layout.rowHeight) (job : String)
    (showDebug : Bool) (operations : List (Operation Rat)) :
    let viewer := (new job layout showDebug).run operations
    0 ≤ viewer.viewport.scrollOffset ∧
      viewer.viewport.scrollOffset ≤
        max 0 (viewer.buffer.view.length * layout.rowHeight - viewer.viewport.containerHeight) := by
  intro viewer
  have started : (new job layout showDebug).buffer.Exact := rfl
  have exact_ : viewer.buffer.Exact := run_exact started operations
  obtain ⟨nonneg, within⟩ := run_legal layout tall.le job showDebug operations
  rw [Viewport.maxScroll_eq, Viewport.rows_eq, (run_steady job layout showDebug operations).2, count,
    Buffer.count_eq exact_] at within
  exact ⟨nonneg, within⟩

/-- Three rows of twenty in a container of fifty: a scroll far beyond the list ends at its end, and a
search that leaves one row goes back to the top. -/
theorem offset_after_scroll_beyond_list :
    let layout : Layout Rat := ⟨20, 2, 10, 100⟩
    let viewer := (new "job" layout false).run
      [.input (.action (.resize 50)),
        .append [⟨"12:00:00.0", "a", .info, 1⟩, ⟨"12:00:00.1", "b", .info, 2⟩,
          ⟨"12:00:00.2", "c", .info, 3⟩],
        .input (.action (.scrollTo (-7) 0)), .input (.action (.scrollTo 1000 5))]
    0 < layout.rowHeight ∧ viewer.viewport.scrollOffset = 10 ∧
      (viewer.setSearch "b").viewport.scrollOffset = 0 ∧
      0 ≤ viewer.viewport.scrollOffset ∧
        viewer.viewport.scrollOffset ≤
          max 0 (viewer.buffer.view.length * layout.rowHeight - viewer.viewport.containerHeight) := by
  intro layout viewer
  have tall : 0 < layout.rowHeight := by decide
  exact ⟨tall, by decide +kernel, by decide +kernel,
    scroll_offset_stays_legal layout tall "job" false _⟩

end LiveLog.Viewer
