import LiveLog.Proofs.Viewer.Coverage
import LiveLog.Proofs.Viewer.Operations

/-! A viewer that follows the end of its list has the end in sight, whatever was done to it. After records
arrived, the container was resized, the filter changed or the following was turned over it stands at the
very end, its window ends with the list, and the newest record is materialized as soon as the container
has a height. -/
namespace LiveLog.Viewer

/-- The viewer stands at the end of its list. -/
structure ShowsEnd (viewer : Viewer Rat) : Prop where
  offset_greatest : viewer.viewport.scrollOffset = viewer.viewport.maxScroll viewer.count
  window_reaches : viewer.window.stop = viewer.count
  /-- A container without a height materializes no row above its lower edge. -/
  newest_shown : 0 < viewer.viewport.containerHeight →
    viewer.visibleRecords.getLast? = viewer.buffer.view.getLast?

/-- Where the end is followed it is in sight. -/
def HasEndInSight (viewer : Viewer Rat) : Prop :=
  viewer.viewport.followTail = true → viewer.viewport.isAtBottom viewer.count = true

/-! ### The greatest offset -/

section
variable {α : Type} {viewer later : Viewer α} {operation : Operation α}

/-- A scroll renews nothing, and neither does a scroll that settles. -/
theorem not_renews_of_scroll {now : Nat}
    (scrolls : operation.scrolledAt? = some now ∨ operation = .input (.settled now)) :
    ¬ viewer.Renews operation := by
  intro renews
  rcases scrolls with scrolls | rfl
  · cases operation with
    | append records => simp [Operation.scrolledAt?] at scrolls
    | scrollToTop now => exact renews
    | input input =>
      cases input with
      | event event => simp [Operation.scrolledAt?] at scrolls
      | settled now => exact renews
      | action action =>
        cases action with
        | scrollByRows steps now => exact renews
        | scrollTo offset now => exact renews
        | _ => simp [Operation.scrolledAt?] at scrolls
  · exact renews

variable [Scalar α]

/-- An operation that renews the list leaves a viewer that follows at the greatest offset. -/
theorem Follows.offset_greatest (follows : Follows viewer operation later)
    (renews : viewer.Renews operation) :
    later.viewport.scrollOffset = later.viewport.maxScroll later.count := by
  cases follows with
  | still before unrenewed sight idle => exact absurd renews unrenewed
  | brought offset cause alone => exact offset
  | scrolled now scrolls before bottom alone =>
    exact absurd renews (not_renews_of_scroll (.inl scrolls))
  | settled due now cause armed reached bottom sight alone =>
    exact absurd renews (not_renews_of_scroll (.inr cause))

end

/-! ### The end in sight -/

variable {viewer later : Viewer Rat} {operation : Operation Rat}

theorem Follows.end_in_sight (follows : Follows viewer operation later)
    (tolerant : 0 ≤ later.viewport.layout.bottomTolerance) (before : viewer.HasEndInSight) :
    later.viewport.isAtBottom later.count = true := by
  cases follows with
  | still followed unrenewed sight idle => exact sight.trans (before followed)
  | brought offset cause alone => exact Viewport.at_bottom_of_end tolerant offset
  | scrolled now scrolls followed bottom alone => exact bottom
  | settled due now cause armed reached bottom sight alone => exact sight.trans bottom

theorem run_end_in_sight (layout : Layout Rat) (tolerant : 0 ≤ layout.bottomTolerance)
    (job : String) (showDebug : Bool) (operations : List (Operation Rat)) :
    ((new job layout showDebug).run operations).HasEndInSight := by
  induction operations using List.reverseRecOn with
  | nil =>
    intro following
    have least : (Viewport.new layout).maxScroll 0 = 0 := by
      rw [Viewport.maxScroll_eq, Viewport.rows_eq]
      simp [Viewport.new, Scalar.zero_eq]
    exact Viewport.at_bottom_of_end tolerant least.symm
  | append_singleton operations operation ih =>
    obtain ⟨undistracted, same⟩ := run_steady job layout showDebug operations
    have turn := after_turn undistracted operation
    rw [run_concat]
    intro following
    refine (turn.follows following).end_in_sight ?_ ih
    rw [turn.layout, same]
    exact tolerant

theorem showsEnd_of_greatest (exact_ : viewer.buffer.Exact)
    (tall : 0 < viewer.viewport.layout.rowHeight)
    (greatest : viewer.viewport.scrollOffset = viewer.viewport.maxScroll viewer.count) :
    viewer.ShowsEnd where
  offset_greatest := greatest
  window_reaches := Viewport.window_stop_of_end tall greatest
  newest_shown open_ := by
    have stop : viewer.window.stop = viewer.count := Viewport.window_stop_of_end tall greatest
    rcases Nat.eq_zero_or_pos viewer.count with none_ | some_
    · have empty : viewer.buffer.view = [] := by
        rw [count, Buffer.count_eq exact_] at none_
        exact List.eq_nil_of_length_eq_zero none_
      simp [visibleRecords_eq exact_, empty]
    · exact newest_visible exact_ (Viewport.window_start_of_end tall open_ some_ greatest) stop

/-- Whatever is done to a viewer, it has the end of its list in sight while it follows the end. If it
follows the end after records arrived, the container was resized, the filter changed or the following was
turned over, it stands at the greatest offset, its window ends with the list, and a container of any
height has the newest record among those materialized. -/
theorem following_stays_at_the_end (layout : Layout Rat) (tall : 0 < layout.rowHeight)
    (tolerant : 0 ≤ layout.bottomTolerance) (job : String) (showDebug : Bool)
    (operations : List (Operation Rat)) :
    ((new job layout showDebug).run operations).HasEndInSight ∧
      ∀ operation, ((new job layout showDebug).run operations).Renews operation →
        (((new job layout showDebug).run operations).after operation).viewport.followTail = true →
          (((new job layout showDebug).run operations).after operation).ShowsEnd := by
  refine ⟨run_end_in_sight layout tolerant job showDebug operations, ?_⟩
  intro operation renews follows
  obtain ⟨undistracted, same⟩ := run_steady job layout showDebug operations
  have turn := after_turn undistracted operation
  have started : (new job layout showDebug).buffer.Exact := rfl
  have exact_ := after_exact (run_exact started operations) operation
  refine showsEnd_of_greatest exact_ ?_ ((turn.follows follows).offset_greatest renews)
  rw [turn.layout, same]
  exact tall

/-- Three rows of twenty in a container of fifty: the third record ends those materialized. -/
theorem three_records_reach_the_end :
    let layout : Layout Rat := ⟨20, 2, 10, 100⟩
    let sized := (new "job" layout false).run [.input (.action (.resize 50))]
    let arrival := Operation.append
      [⟨"12:00:00.0", "a", .info, 1⟩, ⟨"12:00:00.1", "b", .info, 2⟩, ⟨"12:00:00.2", "c", .info, 3⟩]
    0 < layout.rowHeight ∧ 0 ≤ layout.bottomTolerance ∧ sized.Renews arrival ∧
      (sized.after arrival).viewport.followTail = true ∧ sized.HasEndInSight ∧
        (sized.after arrival).ShowsEnd ∧ (sized.after arrival).viewport.scrollOffset = 10 := by
  intro layout sized arrival
  have tall : 0 < layout.rowHeight := by decide
  have tolerant : 0 ≤ layout.bottomTolerance := by decide
  have renews : sized.Renews arrival := List.cons_ne_nil _ _
  have follows : (sized.after arrival).viewport.followTail = true := by decide +kernel
  obtain ⟨sight, ends⟩ := following_stays_at_the_end layout tall tolerant "job" false
    [.input (.action (.resize 50))]
  exact ⟨tall, tolerant, renews, follows, sight, ends arrival renews follows, by decide +kernel⟩

/-- Before a container has a height, a viewer at the greatest offset, with a window that ends with the
list, materializes nothing: the one record is the newest and is not shown. -/
theorem newest_not_shown_without_height :
    let record : Record := ⟨"12:00:00.0", "line 1", .info, 1⟩
    let start := new "job" (⟨20, 2, 10, 100⟩ : Layout Rat) false
    let viewer := start.after (.append [record])
    start.Renews (.append [record]) ∧ viewer.viewport.followTail = true ∧
      viewer.viewport.scrollOffset = viewer.viewport.maxScroll viewer.count ∧
        viewer.window.stop = viewer.count ∧ viewer.buffer.view = [record] ∧
          record ∉ viewer.visibleRecords := by
  intro record start viewer
  exact ⟨List.cons_ne_nil _ _, by decide +kernel⟩

end LiveLog.Viewer
