import LiveLog.Proofs.Host.Inputs
import LiveLog.Proofs.Viewer.Coverage
import LiveLog.Proofs.Viewer.Rows

/-! A followed pane shows the newest line. A host lets every viewer stand on whole rows: panes are whole
rows high, keys scroll by rows, and the offsets gone to are the top and the end. So the rows of a pane are
those from the offset on, none of them cut, and a viewer that follows, which every draw puts at the very
end, has its newest record in the last of them. To go to the end is to scroll to the largest double, and
only a list that is higher than that leaves the viewer between two rows. -/
namespace LiveLog

open Screen

namespace Viewer

/-- The records in a pane of so many rows: those of the view from the row the offset is at, as many as
there are up to the rows of the pane. While the end is followed the newest is the last of them. -/
structure FillsPane (viewer : Viewer Rat) (rows : Nat) (shown : List Record) : Prop where
  from_offset : ∃ row : Nat,
    viewer.viewport.scrollOffset = row * viewer.viewport.layout.rowHeight ∧
      shown = (viewer.buffer.view.drop row).take rows
  newest_last : viewer.viewport.followTail = true → 0 < rows →
    shown.getLast? = viewer.buffer.view.getLast?

variable {viewer : Viewer Rat} {layout : Layout Rat} {row rows : Nat}

/-- Rows from the offset on fill the pane: the window does not begin later and does not end sooner than
the pane or the list. -/
theorem paneRecords_eq (exact_ : viewer.buffer.Exact) (tall : 0 < viewer.viewport.layout.rowHeight)
    (offset : viewer.viewport.scrollOffset = row * viewer.viewport.layout.rowHeight)
    (height : viewer.viewport.containerHeight = rows * viewer.viewport.layout.rowHeight) :
    Host.paneRecords viewer rows = (viewer.buffer.view.drop row).take rows := by
  have length : viewer.count = viewer.buffer.view.length := Buffer.count_eq exact_
  have stop : viewer.window.stop =
      min viewer.count (row + (rows + viewer.viewport.layout.bufferRows)) := by
    rw [window, Viewport.window_stop, offset, height, mul_div_cancel_right₀ _ tall.ne',
      mul_div_cancel_right₀ _ tall.ne', Nat.floor_natCast, Nat.ceil_natCast]
  have start : viewer.window.start = min row viewer.window.stop := by
    rw [window, Viewport.window_start, offset, mul_div_cancel_right₀ _ tall.ne', Nat.floor_natCast]
  rw [Host.paneRecords, visibleRecords_eq exact_, start, stop, length]
  apply List.ext_getElem?
  intro place
  simp only [List.getElem?_take, List.getElem?_drop]
  by_cases inside : place < rows
  · rw [if_pos inside, if_pos inside]
    split
    · congr 1
      omega
    · exact (List.getElem?_eq_none (by omega)).symm
  · rw [if_neg inside, if_neg inside]

/-- At the greatest offset the last row of the list is in a pane that has a row. -/
theorem newest_in_pane (exact_ : viewer.buffer.Exact) (tall : 0 < viewer.viewport.layout.rowHeight)
    (offset : viewer.viewport.scrollOffset = row * viewer.viewport.layout.rowHeight)
    (height : viewer.viewport.containerHeight = rows * viewer.viewport.layout.rowHeight)
    (greatest : viewer.viewport.scrollOffset = viewer.viewport.maxScroll viewer.count)
    (some_ : 0 < rows) :
    ((viewer.buffer.view.drop row).take rows).getLast? = viewer.buffer.view.getLast? := by
  have length : viewer.count = viewer.buffer.view.length := Buffer.count_eq exact_
  have reached : viewer.buffer.view.length ≤ row + rows := by
    have full := viewer.viewport.rows_le_maxScroll viewer.count
    rw [← greatest, offset, height, Viewport.rows_eq, ← add_mul] at full
    have counted := le_of_mul_le_mul_right full tall
    rw [← length]
    exact_mod_cast counted
  have begun : viewer.buffer.view ≠ [] → row < viewer.buffer.view.length := by
    intro filled
    have positive : 0 < viewer.count := by
      rw [length]
      exact List.length_pos_iff.mpr filled
    have open_ : 0 < viewer.viewport.containerHeight := by
      rw [height]
      exact mul_pos (Nat.cast_pos.mpr some_) tall
    have below := Viewport.offset_lt_rows_of_end tall open_ positive greatest
    rw [offset, Viewport.rows_eq] at below
    have counted := lt_of_mul_lt_mul_right below tall.le
    rw [← length]
    exact_mod_cast counted
  rw [List.take_of_length_le (by rw [List.length_drop]; omega), List.getLast?_drop]
  split
  · rename_i beyond
    have empty : viewer.buffer.view = [] := by
      by_contra filled
      exact absurd (begun filled) (by omega)
    rw [empty]
    rfl
  · rfl

/-- A viewer that takes the height of a pane fills it. -/
theorem Regular.resize_fills (regular : viewer.Regular layout) (tall : 0 < layout.rowHeight)
    (rows : Nat) :
    let later := viewer.resize (rows * layout.rowHeight)
    later.FillsPane rows (Host.paneRecords later rows) := by
  intro later
  have resized : later.Regular layout :=
    regular.after (.input (.action (.resize (rows * layout.rowHeight))))
      (by rw [ByRows, regular.layout_eq]; exact .natural layout rows)
  have sameLayout : later.viewport.layout = layout := resized.layout_eq
  have height : later.viewport.containerHeight = rows * later.viewport.layout.rowHeight := by
    have taken := viewer.viewport.resize_containerHeight (rows * layout.rowHeight) viewer.count
    rw [Scalar.atLeastZero_eq, max_eq_right (mul_nonneg (Nat.cast_nonneg rows) tall.le)] at taken
    rw [sameLayout]
    exact taken
  have tallLater : 0 < later.viewport.layout.rowHeight := by rwa [sameLayout]
  obtain ⟨row, offset⟩ := resized.offset_rows tall
  rw [← sameLayout] at offset
  have shown := paneRecords_eq resized.exact_ tallLater offset height
  refine ⟨⟨row, offset, shown⟩, fun follows some_ => ?_⟩
  rw [shown]
  refine newest_in_pane resized.exact_ tallLater offset height ?_ some_
  -- A viewer that follows was put at the end by the resize.
  have followed : viewer.viewport.followTail = true :=
    (viewer.viewport.resize_followTail _ viewer.count).symm.trans follows
  simp only [later, resize, Viewport.resize, if_pos followed]
  rfl

end Viewer

namespace Host

/-- The end of the list can be reached by a scroll to the largest double, or that is itself a whole
number of rows. -/
def EndInReach (viewer : Viewer Rat) : Prop :=
  viewer.viewport.layout.Whole Scalar.largest ∨
    viewer.viewport.maxScroll viewer.count ≤ Scalar.largest

/-- Whenever an input sends the viewer in focus to its end, the end is in reach. -/
def EndsInReach (host : Host Rat) : List Input → Prop
  | [] => True
  | input :: inputs =>
    (host.GoesToEnd input → ∀ viewer ∈ host.focusedViewer?, EndInReach viewer) ∧
      (host.after input).EndsInReach inputs

instance (viewer : Viewer Rat) : Decidable (EndInReach viewer) :=
  inferInstanceAs (Decidable (_ ∨ _))

instance decideEndsInReach (host : Host Rat) : (inputs : List Input) →
    Decidable (host.EndsInReach inputs)
  | [] => isTrue trivial
  | input :: inputs =>
    have := decideEndsInReach (host.after input) inputs
    inferInstanceAs (Decidable (_ ∧ _))

/-- The host counts with the row height of its viewers, which all stand on whole rows. -/
structure Regular (host : Host Rat) : Prop where
  same_height : host.coordinator.config.rowHeight = host.rowHeight
  all_regular : host.coordinator.AllOpen (Viewer.Regular host.coordinator.config.layout)

variable {host later : Host Rat} {input : Input}

/-! ### One turn -/

/-- What keys pass on keeps to whole rows, if the end is in reach when they go there. -/
theorem Passes.byRows {action : Viewer.Action Rat} (passes : Passes host input action)
    {viewer : Viewer Rat} (reach : host.GoesToEnd input → EndInReach viewer) :
    viewer.ByRows (.input (.action action)) := by
  cases passes with
  | toTop now => exact .inl (.zero _)
  | toEnd now pressed => exact reach pressed
  | _ => trivial

theorem Regular.told (regular : host.Regular) (message : Option String) :
    (host.told message).Regular :=
  ⟨regular.same_height, regular.all_regular⟩

theorem Regular.acted (regular : host.Regular) (id : InstanceId) {action : Viewer.Action Rat}
    (byRows : ∀ viewer, host.coordinator.viewer? id = some viewer →
      viewer.viewport.layout = host.coordinator.config.layout →
        viewer.ByRows (.input (.action action))) :
    { host with coordinator := (host.coordinator.act id action).1 }.Regular := by
  have sameConfig := host.coordinator.config_act id action
  refine ⟨?_, ?_⟩ <;> simp only [sameConfig]
  · exact regular.same_height
  · exact regular.all_regular.act id action fun viewer open_ standing =>
      standing.after (.input (.action action)) (byRows viewer open_ standing.layout_eq)

/-- A pane is whole rows high. -/
theorem Regular.sized (regular : host.Regular) (pane : Pane) : (host.sized pane).Regular := by
  refine regular.acted _ fun viewer _ layout => ?_
  rw [Viewer.ByRows, layout, ← regular.same_height]
  exact .natural _ pane.rows

theorem Regular.sizedAll (regular : host.Regular) (panes : List Pane) :
    (panes.foldl Host.sized host).Regular := by
  induction panes generalizing host with
  | nil => exact regular
  | cons pane panes ih => exact ih (regular.sized pane)

theorem Regular.toggled (regular : host.Regular) (now : Nat) :
    (host.toggleFocused now).Regular := by
  rcases host.toggleFocused_cases now with ⟨message, toggled⟩ | ⟨message, toggled⟩ <;> rw [toggled]
  · have sameConfig := host.coordinator.config_close host.focusedId now
    refine ⟨?_, ?_⟩ <;> simp only [sameConfig]
    · exact regular.same_height
    · exact regular.all_regular.close _ now
  · have sameConfig :=
      host.coordinator.config_openViewer host.focusedJob.job host.focusedJob.url now
    refine ⟨?_, ?_⟩ <;> simp only [sameConfig]
    · exact regular.same_height
    · exact regular.all_regular.openViewer _ _ now fun job => Viewer.new_regular _ job _

theorem Turn.regular (turn : Turn host input later) (regular : host.Regular)
    (reach : host.GoesToEnd input → ∀ viewer ∈ host.focusedViewer?, EndInReach viewer) :
    later.Regular := by
  cases turn with
  | idle same =>
    rw [same]
    exact regular.told _
  | passed action passes same =>
    have passed : (host.passing action).Regular :=
      regular.acted _ fun viewer open_ _ => passes.byRows fun pressed => reach pressed viewer open_
    rw [same]
    exact passed.told _
  | searched key box editing typed same =>
    have searched : (host.passing (.setSearch box.text)).Regular :=
      regular.acted _ fun _ _ _ => trivial
    rw [same]
    exact ⟨searched.same_height, searched.all_regular⟩
  | moved key box edit mode kept editing typed same =>
    rw [same]
    exact ⟨regular.same_height, regular.all_regular⟩
  | switched normal same =>
    have focused : host.focusNext.Regular := by
      unfold focusNext
      split
      · exact regular
      · exact ⟨regular.same_height, regular.all_regular⟩
    rw [same]
    exact focused.told _
  | toggled now normal same =>
    rw [same]
    exact (regular.toggled now).told _
  | searching open_ same =>
    rw [same]
    exact ⟨regular.same_height, regular.all_regular⟩
  | ticked now same =>
    rw [same]
    refine ⟨regular.same_height, regular.all_regular.pump now ?_ ?_⟩
    · exact fun viewer event standing => standing.after (.input (.event event)) trivial
    · exact fun viewer standing => standing.after (.input (.settled now)) trivial
  | drawn width height same =>
    rw [same]
    exact regular.sizedAll _
  | streamed connections same =>
    rw [same]
    exact ⟨regular.same_height, regular.all_regular⟩

/-! ### Every run -/

theorem new_regular (coordinator : Coordinator Rat)
    (standing : coordinator.AllOpen (Viewer.Regular coordinator.config.layout))
    (jobs : List JobSpec) (link : Option DeepLink) (now : Nat) :
    (new coordinator jobs coordinator.config.rowHeight link now).Regular := by
  obtain ⟨host, fresh, start⟩ := new_cases coordinator jobs coordinator.config.rowHeight link now
  have sameConfig := coordinator.config_opened jobs now
  have regular : host.Regular := by
    refine ⟨?_, ?_⟩ <;> rw [fresh.all_opened, sameConfig]
    · exact fresh.same_height.symm
    · exact standing.opened jobs now fun job => Viewer.new_regular _ job _
  rcases start with same | ⟨line, same⟩
  · rwa [same]
  · rw [same]
    exact regular.acted _ fun _ _ _ => trivial

theorem run_regular (regular : host.Regular) (inputs : List Input)
    (reach : host.EndsInReach inputs) : (host.run inputs).Regular := by
  induction inputs generalizing host with
  | nil => exact regular
  | cons input inputs ih => exact ih ((host.after_turn input).regular regular reach.1) reach.2

/-! ### What a host shows -/

/-- Every open viewer stands on whole rows, and a pane that shows a log has a line for each record its
viewer fills it with. -/
structure ShowsNewest (host : Host Rat) : Prop where
  on_rows : ∀ id viewer, host.coordinator.viewer? id = some viewer →
    (∃ row : Nat, viewer.viewport.scrollOffset = row * host.rowHeight) ∧
      ∃ rows : Nat, viewer.viewport.containerHeight = rows * host.rowHeight
  panes_filled : ∀ width height pane viewer before after,
    host.Draws width height pane viewer before after → viewer.ShowsLog →
      (∃ border, after =
        writeLines (writePanel before pane.area (paneTitle viewer) border {}) pane.area.inner
          (paneLines viewer pane.rows)) ∧
        viewer.FillsPane pane.rows (paneRecords viewer pane.rows)

theorem Regular.showsNewest (regular : host.Regular) (tall : 0 < host.rowHeight) :
    host.ShowsNewest where
  on_rows id viewer open_ := by
    have standing := regular.all_regular id viewer open_
    have same : host.coordinator.config.layout.rowHeight = host.rowHeight := regular.same_height
    rw [← same] at tall ⊢
    exact ⟨standing.offset_rows tall, standing.height_rows tall⟩
  panes_filled width height pane viewer before after draws shows := by
    obtain ⟨earlier, later, drawing, -, painted, open_, drawn⟩ := draws
    refine ⟨⟨Style.ofFg (if pane.index = drawing.focused then .cyan else .darkGray), ?lines⟩,
      ?fills⟩
    case lines =>
      rw [← drawn, drawPane_open open_, drawViewer_log shows]
      rfl
    case fills =>
      -- The host comes to the pane as it was after the panes before.
      have same : drawing = earlier.foldl Host.sized host := by
        rw [← host.painted_fst width height earlier, painted]
      have regularThere : drawing.Regular := same ▸ regular.sizedAll earlier
      have heightThere : drawing.rowHeight = host.rowHeight := by
        rw [same]
        exact congrArg (·.2.1) (host.setup_sized earlier)
      have sameHeight : drawing.coordinator.config.layout.rowHeight = drawing.rowHeight :=
        regularThere.same_height
      have resized := (drawing.coordinator.viewer?_act (drawing.shownId pane) (drawing.shownId pane)
        (.resize (pane.rows * drawing.rowHeight))).symm.trans open_
      rw [if_pos rfl] at resized
      obtain ⟨shown, found, rfl⟩ := Option.map_eq_some_iff.mp resized
      rw [← sameHeight]
      exact (regularThere.all_regular _ shown found).resize_fills
        (by rwa [sameHeight, heightThere]) pane.rows

/-- Whatever comes to a host, as long as the end is in reach whenever a key goes to it: every open viewer
has an offset and a height that are whole numbers of rows, and when a draw shows the log of a viewer in a
pane, its lines are those of the records from the offset on, as many as there are up to the rows of the
pane, the newest record last if the viewer follows the end. The coordinator may have viewers open already,
if these stand on whole rows. -/
theorem followed_pane_shows_newest (coordinator : Coordinator Rat)
    (tall : 0 < coordinator.config.rowHeight)
    (standing : coordinator.AllOpen (Viewer.Regular coordinator.config.layout))
    (jobs : List JobSpec) (link : Option DeepLink) (now : Nat) (inputs : List Input)
    (reach : (new coordinator jobs coordinator.config.rowHeight link now).EndsInReach inputs) :
    ((new coordinator jobs coordinator.config.rowHeight link now).run inputs).ShowsNewest := by
  have regular := run_regular (new_regular coordinator standing jobs link now) inputs reach
  have height : ((new coordinator jobs coordinator.config.rowHeight link now).run inputs).rowHeight =
      coordinator.config.rowHeight :=
    congrArg (·.2.1) (run_setup coordinator jobs coordinator.config.rowHeight link now inputs)
  exact regular.showsNewest (by rwa [height])

/-- A record as it is pushed. -/
def pushed (line : String) : String :=
  "\x7b\"message\":\"m\",\"line\":" ++ line ++ "\x7d"

/-- The stream of the first job is accepted, and three records come in one batch. -/
def threeRecords : List Input :=
  [.task 0 (.proceed 0), .task 0 (.receive .accepted), .task 0 (.proceed 1), .task 0 (.proceed 1),
    .task 0 (.receive (.payload
      ("[" ++ pushed "1" ++ "," ++ pushed "2" ++ "," ++ pushed "3" ++ "]"))),
    .task 0 (.proceed 2), .task 0 .wake, .task 0 (.proceed 20), .tick 20]

/-- Two panes. The list is left by a row and gone to the end of again, which resumes the following; the
pane of two rows shows the last two of three records. -/
theorem last_records_after_end_key :
    let coordinator : Coordinator Rat := .new .standard
    let start := new coordinator [⟨"build", "b"⟩, ⟨"tests", "t"⟩] coordinator.config.rowHeight none 0
    let inputs := threeRecords ++
      [.draw 40 9, .key .up false 30, .key .endKey false 31, .tick 140, .draw 40 12]
    let host := start.run inputs
    0 < coordinator.config.rowHeight ∧
      coordinator.AllOpen (Viewer.Regular coordinator.config.layout) ∧ start.EndsInReach inputs ∧
      host.focusedViewer?.map (fun viewer => (viewer.viewport.followTail,
        viewer.viewport.scrollOffset, (paneRecords viewer 2).map Record.sequence)) =
          some (true, 20, [2, 3]) ∧
      host.ShowsNewest := by
  intro coordinator start inputs host
  have tall : 0 < coordinator.config.rowHeight := by decide
  have standing : coordinator.AllOpen (Viewer.Regular coordinator.config.layout) :=
    Coordinator.new_allOpen _ .standard
  have reach : start.EndsInReach inputs := by decide +kernel
  exact ⟨tall, standing, reach, by decide +kernel,
    followed_pane_shows_newest coordinator tall standing _ none 0 inputs reach⟩

/-- Rows so high that two of them are beyond every double: to go to the end of three records leads to the
largest double, between the second row and the third. -/
theorem end_key_stops_between_rows :
    let config : Config Rat := { Config.standard with rowHeight := Scalar.ofCount (12 * 10 ^ 307) }
    let host := (new (.new config) [⟨"build", "b"⟩] config.rowHeight none 0).run
      (threeRecords ++ [.key .endKey false 30])
    0 < config.rowHeight ∧ 0 ≤ config.bottomTolerance ∧ config.bottomTolerance < config.rowHeight ∧
      ∃ viewer, host.coordinator.viewer? (.ofJob "build") = some viewer ∧
        ∀ row : Nat, viewer.viewport.scrollOffset ≠ row * config.rowHeight := by
  intro config host
  refine ⟨by decide +kernel, by decide +kernel, by decide +kernel, ?_⟩
  have between : ∃ viewer ∈ host.coordinator.viewer? (.ofJob "build"),
      ¬ config.layout.Whole viewer.viewport.scrollOffset := by decide +kernel
  obtain ⟨viewer, open_, broken⟩ := between
  refine ⟨viewer, open_, fun row same => broken ?_⟩
  rw [same]
  exact .natural config.layout row

end Host

end LiveLog
