import LiveLog.Proofs.Viewer.Coverage
import LiveLog.Proofs.Viewer.Operations

/-! A line opened in a new viewer is shown when the records bring it, wherever the container gets its
height among the batches. The row is revealed once, in the container there is then. A container without a
height is scrolled past the row, and the height it gets later brings the row back only if the list was
short enough. -/
namespace LiveLog

/-! ### The first row of a line -/

/-- The first position of a view that shows a line. -/
def Buffer.FirstShows (view : List Record) (line : UInt64) (position : Nat) : Prop :=
  IsLeast { p | Buffer.ShowsLine view line p } position

namespace Buffer

theorem firstShows_iff {buffer : Buffer} (exact_ : buffer.Exact) (line : UInt64) (position : Nat) :
    buffer.position? line = some position ↔ FirstShows buffer.view line position := by
  rw [position?, position_from_some_iff exact_]
  simp only [Nat.zero_le, true_and, FirstShows]

theorem missing_iff {buffer : Buffer} (exact_ : buffer.Exact) (line : UInt64) :
    buffer.position? line = none ↔ ∀ position, ¬ ShowsLine buffer.view line position := by
  rw [position?, position_from_none_iff exact_]
  simp only [Nat.zero_le, forall_const]

/-- A line of the view has a first row. -/
theorem exists_firstShows {buffer : Buffer} (exact_ : buffer.Exact) {line : UInt64}
    (present : ∃ record ∈ buffer.view, record.sequence = line) :
    ∃ position, FirstShows buffer.view line position := by
  obtain ⟨record, member, same⟩ := present
  obtain ⟨index, found⟩ := List.getElem?_of_mem member
  cases sought : buffer.position? line with
  | some position => exact ⟨position, (firstShows_iff exact_ line position).mp sought⟩
  | none =>
    exact absurd ⟨record, found, same⟩ ((missing_iff exact_ line).mp sought index)

theorem lt_length_of_shows {view : List Record} {line : UInt64} {position : Nat}
    (shows : ShowsLine view line position) : position < view.length := by
  obtain ⟨record, found, -⟩ := shows
  exact (List.getElem?_eq_some_iff.mp found).1

theorem showsLine_append {view : List Record} (more : List Record) {line : UInt64} {position : Nat}
    (bound : position < view.length) :
    ShowsLine (view ++ more) line position ↔ ShowsLine view line position := by
  rw [ShowsLine, ShowsLine, List.getElem?_append_left bound]

/-- Where no record before a position has the line, looking from that position on is looking
everywhere. -/
theorem positionFrom?_eq_position? {buffer : Buffer} (exact_ : buffer.Exact) {line : UInt64}
    {start : Nat} (missing : ∀ position < start, ¬ ShowsLine buffer.view line position) :
    buffer.positionFrom? line start = buffer.position? line := by
  cases sought : buffer.position? line with
  | none =>
    rw [position_from_none_iff exact_]
    exact fun position _ => (missing_iff exact_ line).mp sought position
  | some found =>
    obtain ⟨shows, least⟩ := (firstShows_iff exact_ line found).mp sought
    rw [position_from_some_iff exact_]
    refine ⟨⟨Nat.le_of_not_lt fun before => missing found before shows, shows⟩, ?_⟩
    rintro position ⟨-, showsToo⟩
    exact least showsToo

/-- Records that arrive later leave the first row of a line where it is. -/
theorem FirstShows.append {view : List Record} {line : UInt64} {position : Nat}
    (first : FirstShows view line position) (more : List Record) :
    FirstShows (view ++ more) line position := by
  obtain ⟨shown, least⟩ := first
  have bound : position < view.length := lt_length_of_shows shown
  refine ⟨(showsLine_append more bound).mpr shown, ?_⟩
  intro other shows
  by_contra earlier
  have within : other < view.length := by omega
  exact earlier (least ((showsLine_append more within).mp shows))

end Buffer

namespace Viewer

section
variable {α : Type} [Scalar α] {viewer : Viewer α} {line : UInt64}

/-- A viewer waits for a line that its view does not have. -/
structure Awaits (viewer : Viewer α) (line : UInt64) : Prop where
  exact_ : viewer.buffer.Exact
  selected : viewer.viewport.selectedLine = some line
  pending : viewer.revealPending = true
  unfollowed : viewer.viewport.followTail = false
  missing : ∀ position, ¬ Buffer.ShowsLine viewer.buffer.view line position

/-- A new viewer that opens a line waits for it, at the top of a container without a height. -/
theorem openAt_awaits (job : String) (layout : Layout α) (showDebug : Bool) (line : UInt64) :
    ((new job layout showDebug).openAt line).Awaits line ∧
      ((new job layout showDebug).openAt line).viewport =
        { Viewport.new layout with selectedLine := some line, followTail := false } := by
  have started : (new job layout showDebug).buffer.Exact := rfl
  have missing (position : Nat) :
      ¬ Buffer.ShowsLine (new job layout showDebug).buffer.view line position :=
    fun ⟨_, found, _⟩ => nomatch found
  have unfound : (new job layout showDebug).buffer.position? line = none :=
    (Buffer.missing_iff started line).mpr missing
  have opened : (new job layout showDebug).openAt line =
      { (new job layout showDebug).selectLine (some line) with
        viewport :=
          { ((new job layout showDebug).selectLine (some line)).viewport with followTail := false }
        revealPending := true } := by
    simp only [openAt, revealSelected, selectLine, unfound]
  rw [opened]
  exact ⟨⟨started, rfl, rfl, rfl, missing⟩, rfl⟩

/-- A look at the new records finds the line where a look at all of them would. -/
theorem Awaits.position_eq {α : Type} {viewer : Viewer α} {line : UInt64}
    (awaits : viewer.Awaits line) (records : List Record) :
    (viewer.buffer.append records).positionFrom? line viewer.count =
      (viewer.buffer.append records).position? line := by
  refine Buffer.positionFrom?_eq_position? (Buffer.append_exact awaits.exact_ records) ?_
  intro position before
  rw [Buffer.view_append, Buffer.showsLine_append _ (Buffer.count_eq awaits.exact_ ▸ before)]
  exact awaits.missing position

/-- Records that arrive bring the line a viewer waits for, or leave it waiting as it is. -/
theorem append_awaits (awaits : viewer.Awaits line) (records : List Record) :
    ((viewer.append records).Awaits line ∧ (viewer.append records).viewport = viewer.viewport) ∨
      ∃ position, Buffer.FirstShows (viewer.append records).buffer.view line position ∧
        viewer.count ≤ position ∧ (viewer.append records).revealPending = false ∧
          (viewer.append records).viewport =
            viewer.viewport.reveal position (viewer.append records).count := by
  by_cases some_ : records = []
  · subst some_
    exact .inl ⟨awaits, rfl⟩
  · have exactNow := Buffer.append_exact awaits.exact_ records
    have still : (viewer.grown records).viewport = viewer.viewport :=
      if_neg (by simp [awaits.unfollowed])
    rcases viewer.append_cases some_ with
      ⟨plain, unfound⟩ | ⟨-, -, sought, position, selected, found, shown⟩
    · left
      have missing := unfound line awaits.pending awaits.unfollowed awaits.selected
      rw [awaits.position_eq, Buffer.missing_iff exactNow] at missing
      rw [plain]
      refine ⟨⟨exactNow, ?_, by simp [awaits.pending, awaits.unfollowed], ?_, missing⟩, still⟩
      · exact (congrArg Viewport.selectedLine still).trans awaits.selected
      · exact (congrArg Viewport.followTail still).trans awaits.unfollowed
    · right
      obtain rfl : sought = line := Option.some.inj (selected.symm.trans awaits.selected)
      obtain ⟨⟨after, -⟩, -⟩ :=
        (Buffer.position_from_some_iff exactNow sought viewer.count position).mp found
      rw [awaits.position_eq] at found
      refine ⟨position, ?_, after, ?_, ?_⟩
      · rw [append_buffer]
        exact (Buffer.firstShows_iff exactNow sought position).mp found
      · rw [shown]
        rfl
      · rw [shown, revealAt, still]
        rfl

/-- With nothing pending, following the end is all that makes a difference. -/
theorem append_of_idle (alone : viewer.revealPending = false) {records : List Record}
    (some_ : records ≠ []) : viewer.append records = viewer.grown records := by
  rcases viewer.append_cases some_ with ⟨plain, -⟩ | ⟨pending, -⟩
  · rw [plain, alone, Bool.false_and, ← alone]
    rfl
  · exact nomatch pending.symm.trans alone

/-- With nothing followed and nothing pending, records that arrive go into the buffer and change nothing
else. -/
theorem append_unfollowed (unfollowed : viewer.viewport.followTail = false)
    (idle : viewer.revealPending = false) (records : List Record) :
    viewer.append records = { viewer with buffer := viewer.buffer.append records } := by
  by_cases some_ : records = []
  · subst some_
    rfl
  · have still : viewer.viewport.afterAppend (viewer.buffer.append records).count =
        viewer.viewport := if_neg (by simp [unfollowed])
    rw [append_of_idle idle some_, grown, still]

/-! ### Batch after batch -/

/-- The operations that append batches. -/
def appends (batches : List (List Record)) : List (Operation α) :=
  batches.map .append

theorem run_appends_view (viewer : Viewer α) (batches : List (List Record)) :
    ∃ more, (viewer.run (appends batches)).buffer.view = viewer.buffer.view ++ more := by
  induction batches generalizing viewer with
  | nil => exact ⟨[], (List.append_nil _).symm⟩
  | cons batch batches ih =>
    obtain ⟨more, later⟩ := ih (viewer.append batch)
    rw [append_buffer, Buffer.view_append, List.append_assoc] at later
    exact ⟨_, later⟩

theorem run_appends_longer (exact_ : viewer.buffer.Exact) (batches : List (List Record)) :
    viewer.count ≤ (viewer.run (appends batches)).count := by
  obtain ⟨more, later⟩ := run_appends_view viewer batches
  rw [count, count, Buffer.count_eq exact_, Buffer.count_eq (run_exact exact_ _), later,
    List.length_append]
  exact Nat.le_add_right _ _

theorem run_appends_idle (unfollowed : viewer.viewport.followTail = false)
    (idle : viewer.revealPending = false) (batches : List (List Record)) :
    (viewer.run (appends batches)).viewport = viewer.viewport ∧
      (viewer.run (appends batches)).revealPending = false := by
  induction batches generalizing viewer with
  | nil => exact ⟨rfl, idle⟩
  | cons batch batches ih =>
    have taken : viewer.run (appends (batch :: batches)) =
        { viewer with buffer := viewer.buffer.append batch }.run (appends batches) :=
      congrArg (run · (appends batches)) (append_unfollowed unfollowed idle batch)
    rw [taken]
    exact ih unfollowed idle

/-- Batches that arrive one after the other bring the line a viewer waits for at some point, where its
row is revealed once and for all, or they leave the viewer waiting as it is. -/
theorem run_appends_awaits (awaits : viewer.Awaits line) (batches : List (List Record)) :
    ((viewer.run (appends batches)).Awaits line ∧
        (viewer.run (appends batches)).viewport = viewer.viewport) ∨
      ∃ position count, Buffer.FirstShows (viewer.run (appends batches)).buffer.view line position ∧
        viewer.count ≤ position ∧ position < count ∧ count ≤ (viewer.run (appends batches)).count ∧
          (viewer.run (appends batches)).viewport = viewer.viewport.reveal position count ∧
            (viewer.run (appends batches)).revealPending = false := by
  induction batches generalizing viewer with
  | nil => exact .inl ⟨awaits, rfl⟩
  | cons batch batches ih =>
    have exactNow : (viewer.append batch).buffer.Exact := by
      rw [append_buffer]
      exact Buffer.append_exact awaits.exact_ batch
    have longer : viewer.count ≤ (viewer.append batch).count :=
      run_appends_longer awaits.exact_ [batch]
    rcases append_awaits awaits batch with ⟨still, same⟩ | ⟨position, first, after, idle, view⟩
    · rcases ih still with ⟨awaitsLater, sameLater⟩ | ⟨position, count, first, after, rest⟩
      · exact .inl ⟨awaitsLater, sameLater.trans same⟩
      · rw [same] at rest
        exact .inr ⟨position, count, first, Nat.le_trans longer after, rest⟩
    · -- This batch brings the line. The reveal is done, and no later batch moves the view.
      have unfollowed : (viewer.append batch).viewport.followTail = false := by
        rw [view]
        exact awaits.unfollowed
      have bound : position < (viewer.append batch).count := by
        rw [count, Buffer.count_eq exactNow]
        exact Buffer.lt_length_of_shows first.1
      obtain ⟨more, later⟩ := run_appends_view (viewer.append batch) batches
      obtain ⟨viewLater, idleLater⟩ := run_appends_idle unfollowed idle batches
      refine .inr ⟨position, (viewer.append batch).count, ?_, after, bound,
        run_appends_longer exactNow batches, viewLater.trans view, idleLater⟩
      have shown := first.append more
      rw [← later] at shown
      exact shown

end

/-! ### One height among the batches -/

variable {viewer : Viewer Rat} {line : UInt64} {height : Rat}

/-- A viewer that waits at the top of its list still does after its container got a height. -/
theorem Awaits.resize (awaits : viewer.Awaits line) (top : viewer.viewport.scrollOffset = 0)
    (nonneg : 0 ≤ height) :
    (viewer.resize height).Awaits line ∧
      (viewer.resize height).viewport = { viewer.viewport with containerHeight := height } := by
  have sized : (viewer.resize height).viewport = { viewer.viewport with containerHeight := height } := by
    have resized := Viewport.resize_unfollowed awaits.unfollowed height viewer.count
    rw [top, max_eq_right nonneg, min_eq_left (le_max_left _ _), max_self, ← top] at resized
    exact resized
  refine ⟨⟨awaits.exact_, ?_, awaits.pending, ?_, awaits.missing⟩, sized⟩
  · exact (congrArg Viewport.selectedLine sized).trans awaits.selected
  · exact (congrArg Viewport.followTail sized).trans awaits.unfollowed

/-- The line arrives in a container that holds a row: it is shown from then on. -/
theorem shown_on_arrival (awaits : viewer.Awaits line) (tall : 0 < viewer.viewport.layout.rowHeight)
    (fits : viewer.viewport.layout.rowHeight ≤ viewer.viewport.containerHeight)
    (top : viewer.viewport.scrollOffset = 0) {batches : List (List Record)} {position : Nat}
    (first : Buffer.FirstShows (viewer.run (appends batches)).buffer.view line position) :
    viewer.count ≤ position ∧ ∃ count,
      (viewer.run (appends batches)).viewport = viewer.viewport.reveal position count ∧
        (viewer.viewport.reveal position count).ShowsRow position := by
  rcases run_appends_awaits awaits batches with
    ⟨still, -⟩ | ⟨found, count, firstFound, after, bound, -, view, -⟩
  · exact absurd first.1 (still.missing position)
  · obtain rfl : found = position := firstFound.unique first
    have legal : viewer.viewport.Legal count := by
      rw [Viewport.Legal, top]
      exact ⟨le_rfl, Viewport.maxScroll_nonneg _ _⟩
    exact ⟨after, count, view, Viewport.reveal_shows tall fits bound legal⟩

/-- The line arrived in a container without a height, which gets one later. -/
theorem shown_by_later_height (awaits : viewer.Awaits line)
    (tall : 0 < viewer.viewport.layout.rowHeight) (fits : viewer.viewport.layout.rowHeight ≤ height)
    (flat : viewer.viewport.containerHeight = 0) (top : viewer.viewport.scrollOffset = 0)
    {arrived : Viewer Rat} {position count : Nat} (bound : position < count)
    (present : count ≤ arrived.count)
    (view : arrived.viewport = viewer.viewport.reveal position count) :
    (arrived.resize height).viewport.ShowsRow position ↔
      viewer.viewport.rows arrived.count ≤ viewer.viewport.rows position + height := by
  have unfollowed : arrived.viewport.followTail = false := by
    rw [view]
    exact awaits.unfollowed
  have below : arrived.viewport.scrollOffset = arrived.viewport.rows (position + 1) := by
    rw [view]
    exact Viewport.reveal_without_height tall bound flat top
  have sameLayout : arrived.viewport.layout = viewer.viewport.layout := by
    rw [view]
    rfl
  have shows := Viewport.resize_shows_iff (sameLayout ▸ tall) unfollowed (sameLayout ▸ fits)
    (Nat.lt_of_lt_of_le bound present) below
  rw [Viewport.rows_eq, Viewport.rows_eq, sameLayout] at shows
  exact shows

/-- Of the batches that bring the line a viewer waits for, some arrive before its container gets a height
and some after. -/
theorem awaited_line_shown_iff (awaits : viewer.Awaits line)
    (tall : 0 < viewer.viewport.layout.rowHeight) (fits : viewer.viewport.layout.rowHeight ≤ height)
    (flat : viewer.viewport.containerHeight = 0) (top : viewer.viewport.scrollOffset = 0)
    (before after : List (List Record)) (position : Nat) :
    let early := viewer.run (appends before)
    let final := (early.resize height).run (appends after)
    Buffer.FirstShows final.buffer.view line position →
      final.viewport.layout = viewer.viewport.layout ∧ final.viewport.followTail = false ∧
        final.viewport.containerHeight = height ∧ (final.viewport.ShowsRow position ↔
          viewer.viewport.rows early.count ≤ viewer.viewport.rows position + height) := by
  intro early final first
  have nonneg : 0 ≤ height := tall.le.trans fits
  rcases run_appends_awaits awaits before with
    ⟨still, same⟩ | ⟨found, count, firstEarly, -, bound, present, view, idle⟩
  · -- The line comes after the height, and is revealed in a container that holds its row.
    obtain ⟨sizedAwaits, sized⟩ := still.resize ((congrArg Viewport.scrollOffset same).trans top) nonneg
    rw [same] at sized
    obtain ⟨later, count, view, shows⟩ : early.count ≤ position ∧ ∃ count,
        final.viewport = (early.resize height).viewport.reveal position count ∧
          ((early.resize height).viewport.reveal position count).ShowsRow position := by
      refine shown_on_arrival sizedAwaits ?_ ?_ ?_ first <;> rw [sized]
      · exact tall
      · exact fits
      · exact top
    have short : viewer.viewport.rows early.count ≤ viewer.viewport.rows position + height := by
      have := Viewport.rows_mono tall.le later
      linarith
    rw [← view] at shows
    rw [sized] at view
    refine ⟨?_, ?_, ?_, fun _ => short, fun _ => shows⟩ <;> rw [view]
    · rfl
    · exact awaits.unfollowed
    · rfl
  · -- The line was there before the height: what the resize clamps is the offset below its row.
    have same : early.viewport.layout = viewer.viewport.layout :=
      (congrArg Viewport.layout view).trans rfl
    have unfollowed : early.viewport.followTail = false :=
      (congrArg Viewport.followTail view).trans awaits.unfollowed
    have resized := Viewport.resize_unfollowed unfollowed height early.count
    rw [max_eq_right nonneg] at resized
    have unfollowedStill : (early.resize height).viewport.followTail = false :=
      (congrArg Viewport.followTail resized).trans unfollowed
    have rests : final.viewport = (early.resize height).viewport :=
      (run_appends_idle unfollowedStill idle after).1
    obtain ⟨more, later⟩ : ∃ more, final.buffer.view = early.buffer.view ++ more :=
      run_appends_view (early.resize height) after
    rw [later] at first
    obtain rfl : found = position := (firstEarly.append more).unique first
    have shows := shown_by_later_height awaits tall fits flat top bound present view
    rw [← rests] at shows
    refine ⟨?_, ?_, ?_, shows⟩ <;> rw [rests]
    · exact (congrArg Viewport.layout resized).trans same
    · exact unfollowedStill
    · exact congrArg Viewport.containerHeight resized

/-- A new viewer opens a line, and among the batches that bring it the container gets a height that holds
a row. In the end the viewer does not follow, and the first row of the line is wholly inside the container
exactly if the rows from that row on that had arrived before the height fit into it. This is so
in particular if the line itself arrived later. A row that is inside the container is materialized. -/
theorem opened_line_shown_iff (layout : Layout Rat) (tall : 0 < layout.rowHeight) (height : Rat)
    (fits : layout.rowHeight ≤ height) (job : String) (showDebug : Bool) (line : UInt64)
    (before after : List (List Record)) :
    let opened := (new job layout showDebug).openAt line
    let early := opened.run (appends before)
    let final := (early.after (.input (.action (.resize height)))).run (appends after)
    (∃ record ∈ final.buffer.view, record.sequence = line) →
      final.viewport.followTail = false ∧ final.viewport.containerHeight = height ∧
        ∃ position, Buffer.FirstShows final.buffer.view line position ∧
          (final.viewport.ShowsRow position ↔
            (early.count : Rat) * layout.rowHeight ≤ position * layout.rowHeight + height) ∧
          (final.viewport.ShowsRow position → ∃ record ∈ final.visibleRecords,
            final.buffer.view[position]? = some record ∧ record.sequence = line) := by
  intro opened early final present
  obtain ⟨awaits, start⟩ := openAt_awaits job layout showDebug line
  have same : opened.viewport.layout = layout := congrArg Viewport.layout start
  have flat : opened.viewport.containerHeight = 0 := congrArg Viewport.containerHeight start
  have top : opened.viewport.scrollOffset = 0 := congrArg Viewport.scrollOffset start
  have tallThere : 0 < opened.viewport.layout.rowHeight := by rwa [same]
  have fitsThere : opened.viewport.layout.rowHeight ≤ height := by rwa [same]
  have exactFinal : final.buffer.Exact := run_exact (after_exact (run_exact awaits.exact_ _) _) _
  obtain ⟨position, first⟩ := Buffer.exists_firstShows exactFinal present
  obtain ⟨sameFinal, unfollowed, high, shows⟩ :=
    awaited_line_shown_iff awaits tallThere fitsThere flat top before after position first
  rw [Viewport.rows_eq, Viewport.rows_eq, same] at shows
  refine ⟨unfollowed, high, position, first, shows, fun inside => ?_⟩
  obtain ⟨record, found, its⟩ := first.1
  have tallFinal : 0 < final.viewport.layout.rowHeight :=
    tallThere.trans_eq (congrArg Layout.rowHeight sameFinal).symm
  exact ⟨record, visible_of_shown exactFinal tallFinal inside found, found, its⟩

/-- Of ten rows two fit. The ninth, which arrived first, is pulled back into sight with the end. -/
theorem opened_near_the_end_is_shown :
    let layout : Layout Rat := ⟨20, 2, 10, 100⟩
    let records := (List.range 10).map fun n => (⟨"", "", .info, n.toUInt64⟩ : Record)
    let early := ((new "job" layout false).openAt 8).run (appends [records])
    let final := (early.after (.input (.action (.resize 40)))).run (appends [])
    0 < layout.rowHeight ∧ layout.rowHeight ≤ 40 ∧
      (∃ record ∈ final.buffer.view, record.sequence = 8) ∧ final.viewport.ShowsRow 8 := by
  intro layout records early final
  have tall : 0 < layout.rowHeight := by decide
  have fits : layout.rowHeight ≤ 40 := by decide
  have present : ∃ record ∈ final.buffer.view, record.sequence = 8 := by decide +kernel
  obtain ⟨-, -, position, first, shows, -⟩ :=
    opened_line_shown_iff layout tall 40 fits "job" false 8 [records] [] present
  obtain ⟨awaits, -⟩ := openAt_awaits "job" layout false 8
  have exact_ : final.buffer.Exact := run_exact (after_exact (run_exact awaits.exact_ _) _) _
  have sought : final.buffer.position? 8 = some 8 := by decide +kernel
  obtain rfl : 8 = position := ((Buffer.firstShows_iff exact_ 8 8).mp sought).unique first
  refine ⟨tall, fits, present, shows.mpr ?_⟩
  decide +kernel

/-- Of ten rows two fit. The sixth arrived first: the height comes when the offset is past it, and
leaves it there. -/
theorem opened_line_left_above :
    let layout : Layout Rat := ⟨20, 2, 10, 100⟩
    let records := (List.range 10).map fun n => (⟨"", "", .info, n.toUInt64⟩ : Record)
    let early := ((new "job" layout false).openAt 5).run (appends [records])
    let final := (early.after (.input (.action (.resize 40)))).run (appends [])
    final.buffer.position? 5 = some 5 ∧ final.viewport.rows 5 < final.viewport.scrollOffset ∧
      ∀ record ∈ final.visibleRecords, record.sequence ≠ 5 := by
  decide +kernel

end Viewer
end LiveLog
