import LiveLog.Proofs.Viewer.OpenedLine

/-! A reveal is pending only while the view does not have the line. So of records that arrive only the new
ones can bring it, and a look at these finds what a look at the whole view would find. The append or the
search that brings the line reveals it, and nothing reveals it again. -/
namespace LiveLog

namespace Viewport

variable {α : Type} [Scalar α] {view later : Viewport α} {count : Nat}

theorem settle_selectedLine (view : Viewport α) (count now : Nat) :
    (view.settle count now).selectedLine = view.selectedLine := by
  unfold settle
  split
  · split <;> rfl
  · rfl

theorem resize_selectedLine (view : Viewport α) (height : α) (count : Nat) :
    (view.resize height count).selectedLine = view.selectedLine := by
  unfold resize
  split <;> rfl

/-- The view goes along with its list and looks for no line: it stays where it is, goes back to the top or
down to the end, or is brought into the list. -/
def GoesAlong (view : Viewport α) (count : Nat) (later : Viewport α) : Prop :=
  later = view ∨ later = view.resetToTop ∨ later = view.scrollToBottom count ∨
    later = view.clamp count

theorem GoesAlong.selectedLine (along : view.GoesAlong count later) :
    later.selectedLine = view.selectedLine := by
  rcases along with rfl | rfl | rfl | rfl <;> rfl

theorem GoesAlong.unfollowed (along : view.GoesAlong count later)
    (unfollowed : view.followTail = false) : later.followTail = false := by
  rcases along with rfl | rfl | rfl | rfl
  · exact unfollowed
  · rfl
  · exact unfollowed
  · exact unfollowed

end Viewport

namespace Viewer

variable {α : Type}

/-- Events, records and searches list other records, or may. -/
def Operation.Relists : Operation α → Prop
  | .input (.event _) => True
  | .append _ => True
  | .input (.action (.setSearch _)) => True
  | _ => False

/-- A line is opened. -/
def Operation.Opens : Operation α → Prop
  | .input (.action (.openAt _)) => True
  | _ => False

/-- The viewer with no reveal pending. -/
def idle (viewer : Viewer α) : Viewer α :=
  { viewer with revealPending := false }

/-- The viewer with a reveal pending. -/
def waiting (viewer : Viewer α) : Viewer α :=
  { viewer with revealPending := true }

theorem idle_waiting (viewer : Viewer α) (pending : viewer.revealPending = true) :
    viewer.idle.waiting = viewer := by
  rw [idle, waiting, ← pending]

/-- Where a reveal is pending, the viewer waits for a line that its view does not have. -/
def Attentive (viewer : Viewer α) : Prop :=
  viewer.revealPending = true → ∃ line, viewer.Awaits line

theorem attentive_of_idle {viewer : Viewer α} (alone : viewer.revealPending = false) :
    viewer.Attentive :=
  fun pending => nomatch pending.symm.trans alone

/-- What keeps the records and the line, and follows nothing where a reveal is pending, leaves a viewer
attentive. -/
theorem Attentive.kept {viewer later : Viewer α} (attentive : viewer.Attentive)
    (buffer : later.buffer = viewer.buffer)
    (selected : later.viewport.selectedLine = viewer.viewport.selectedLine)
    (still : later.revealPending = true →
      viewer.revealPending = true ∧ (viewer.viewport.followTail = false →
        later.viewport.followTail = false)) : later.Attentive := by
  intro pending
  obtain ⟨before, unfollowed⟩ := still pending
  obtain ⟨line, awaits⟩ := attentive before
  refine ⟨line, ?_, selected.trans awaits.selected, pending, unfollowed awaits.unfollowed, ?_⟩
  · rw [buffer]
    exact awaits.exact_
  · rw [buffer]
    exact awaits.missing

theorem Awaits.unfound {viewer : Viewer α} {line : UInt64} (awaits : viewer.Awaits line) :
    viewer.buffer.position? line = none :=
  (Buffer.missing_iff awaits.exact_ line).mpr awaits.missing

variable [Scalar α] {viewer : Viewer α} {line : UInt64} {operation : Operation α}

/-! ### With nothing pending -/

/-- Records that arrive pin the view to the end where it is followed, and otherwise leave it. -/
private theorem idle_append (alone : viewer.revealPending = false) (records : List Record) :
    (viewer.append records).revealPending = false ∧
      viewer.viewport.GoesAlong (viewer.append records).count (viewer.append records).viewport := by
  by_cases some_ : records = []
  · subst some_
    exact ⟨alone, .inl rfl⟩
  · rw [append_of_idle alone some_]
    refine ⟨alone, ?_⟩
    by_cases follows : viewer.viewport.followTail = true
    · exact .inr (.inr (.inl (if_pos follows)))
    · exact .inl (if_neg follows)

private theorem searched_goes_along (viewer : Viewer α) (text : String) :
    viewer.viewport.GoesAlong (viewer.searched text).count (viewer.searched text).viewport := by
  simp only [searched]
  split
  · exact .inr (.inl rfl)
  · split
    · exact .inr (.inr (.inl rfl))
    · exact .inr (.inr (.inr rfl))

/-- With nothing pending, what lists other records reveals nothing. -/
theorem idle_relists (alone : viewer.revealPending = false) (relists : operation.Relists) :
    (viewer.after operation).revealPending = false ∧
      viewer.viewport.GoesAlong (viewer.after operation).count (viewer.after operation).viewport := by
  cases operation with
  | append records => exact idle_append alone records
  | scrollToTop now => exact relists.elim
  | input input =>
    cases input with
    | event event =>
      obtain ⟨status, applied⟩ := viewer.apply_appends event
      rw [after, fed, applied]
      exact idle_append alone event.records
    | settled now => exact relists.elim
    | action action =>
      cases action with
      | setSearch text =>
        rw [after, fed, acted]
        by_cases same : viewer.buffer.filter.text = text
        · rw [show viewer.setSearch text = viewer from if_pos same]
          exact ⟨alone, .inl rfl⟩
        · rw [viewer.setSearch_eq same, if_neg (by simp [alone])]
          exact ⟨alone, searched_goes_along viewer text⟩
      | _ => exact relists.elim

/-- Only an opened line makes a reveal pending. -/
theorem idle_after (alone : viewer.revealPending = false) (unopened : ¬ operation.Opens) :
    (viewer.after operation).revealPending = false := by
  cases operation with
  | append records => exact (idle_append alone records).1
  | scrollToTop now => rfl
  | input input =>
    cases input with
    | event event =>
      have relists : (Operation.input (.event event) : Operation α).Relists := trivial
      exact (idle_relists alone relists).1
    | settled now => simp [after, fed, settle, alone]
    | action action =>
      cases action with
      | setSearch text =>
        have relists : (Operation.input (.action (.setSearch text)) : Operation α).Relists := trivial
        exact (idle_relists alone relists).1
      | setShowDebug showDebug =>
        rw [after, fed, acted, setShowDebug]
        split
        · exact alone
        · rfl
      | toggleFollowTail => simp [after, fed, acted, toggleFollowTail, alone]
      | moveSelection steps =>
        rcases viewer.moveSelection_viewport steps with unmoved | ⟨-, moved, -⟩
        · rw [after, fed, acted, unmoved]
          exact alone
        · exact moved
      | openAt line => exact absurd trivial unopened
      | selectLine line => rfl
      | scrollByRows steps now => rfl
      | scrollTo offset now => rfl
      | toggleFullscreen => exact alone
      | exitFullscreen => exact alone
      | resize height => exact alone

theorem idle_run (alone : viewer.revealPending = false) {later : List (Operation α)}
    (unopened : ∀ operation ∈ later, ¬ operation.Opens) : (viewer.run later).revealPending = false := by
  induction later generalizing viewer with
  | nil => exact alone
  | cons operation later ih =>
    obtain ⟨first, rest⟩ := List.forall_mem_cons.mp unopened
    exact ih (idle_after alone first) rest

/-! ### With a reveal pending -/

theorem revealSelected_found {position : Nat} (selected : viewer.viewport.selectedLine = some line)
    (found : viewer.buffer.position? line = some position) :
    viewer.revealSelected = viewer.revealAt position := by
  simp only [revealSelected, selected, found]

theorem revealSelected_unfound (selected : viewer.viewport.selectedLine = some line)
    (unfound : viewer.buffer.position? line = none) : viewer.revealSelected = viewer := by
  simp only [revealSelected, selected, unfound]

/-- A look at the whole view leaves a reveal pending only where the view does not have the line. -/
theorem revealSelected_attentive (exact_ : viewer.buffer.Exact)
    (unfollowed : viewer.viewport.followTail = false) : viewer.revealSelected.Attentive := by
  cases selected : viewer.viewport.selectedLine with
  | none => exact attentive_of_idle (by simp only [revealSelected, selected])
  | some line =>
    cases sought : viewer.buffer.position? line with
    | none =>
      rw [revealSelected_unfound selected sought]
      intro pending
      exact ⟨line, exact_, selected, pending, unfollowed, (Buffer.missing_iff exact_ line).mp sought⟩
    | some position =>
      rw [revealSelected_found selected sought]
      exact attentive_of_idle rfl

/-- Of records that arrive at a waiting viewer only the new ones are looked through, and the line is
shown as if all had been. -/
private theorem append_relists (awaits : viewer.Awaits line) (records : List Record) :
    viewer.append records = (viewer.idle.append records).waiting.revealSelected := by
  by_cases some_ : records = []
  · subst some_
    have resumed : (viewer.idle.append []).waiting = viewer := viewer.idle_waiting awaits.pending
    rw [resumed, revealSelected_unfound awaits.selected awaits.unfound]
    rfl
  · have resumed : (viewer.idle.append records).waiting = viewer.grown records := by
      rw [append_of_idle rfl some_]
      exact (viewer.grown records).idle_waiting awaits.pending
    have selected : (viewer.grown records).viewport.selectedLine = some line :=
      (Viewport.afterAppend_selectedLine _ _).trans awaits.selected
    rw [resumed]
    rcases viewer.append_cases some_ with ⟨plain, unfound⟩ | ⟨-, -, sought, position, its, found, shown⟩
    · have missing := unfound line awaits.pending awaits.unfollowed awaits.selected
      rw [awaits.position_eq] at missing
      rw [revealSelected_unfound selected missing, plain, awaits.pending, awaits.unfollowed]
      exact (viewer.grown records).idle_waiting awaits.pending
    · obtain rfl : sought = line := Option.some.inj (its.symm.trans awaits.selected)
      rw [awaits.position_eq] at found
      rw [revealSelected_found selected found, shown]

private theorem status_relists (awaits : viewer.Awaits line) (status : Status) :
    { viewer with status } = { viewer.idle with status }.waiting.revealSelected := by
  let told : Viewer α := { viewer with status }
  have selected : told.viewport.selectedLine = some line := awaits.selected
  have resumed : { viewer.idle with status }.waiting = told := told.idle_waiting awaits.pending
  rw [resumed, revealSelected_unfound selected awaits.unfound]

/-- What lists other records at a waiting viewer does what it does with nothing pending, and then
shows the line if the new list has it. -/
theorem Awaits.relists (awaits : viewer.Awaits line) (relists : operation.Relists) :
    viewer.after operation = (viewer.idle.after operation).waiting.revealSelected := by
  cases operation with
  | append records => exact append_relists awaits records
  | scrollToTop now => exact relists.elim
  | input input =>
    cases input with
    | event event =>
      cases event with
      | opened => exact status_relists awaits _
      | batch raw => exact append_relists awaits (Record.decodeBatch raw)
      | error message retryCount => exact status_relists awaits _
    | settled now => exact relists.elim
    | action action =>
      cases action with
      | setSearch text =>
        rw [after, after, fed, fed, acted, acted]
        by_cases same : viewer.buffer.filter.text = text
        · have resumed : (viewer.idle.setSearch text).waiting = viewer := by
            rw [show viewer.idle.setSearch text = viewer.idle from if_pos same]
            exact viewer.idle_waiting awaits.pending
          rw [resumed, revealSelected_unfound awaits.selected awaits.unfound]
          exact if_pos same
        · have resumed : (viewer.idle.setSearch text).waiting = viewer.searched text := by
            have other : viewer.idle.buffer.filter.text ≠ text := same
            rw [setSearch_eq _ other]
            exact (viewer.searched text).idle_waiting awaits.pending
          rw [resumed, setSearch_eq _ same, if_pos awaits.pending]
      | _ => exact relists.elim

private theorem relists_attentive (exact_ : viewer.buffer.Exact) (attentive : viewer.Attentive)
    (relists : operation.Relists) : (viewer.after operation).Attentive := by
  cases pending : viewer.revealPending with
  | false => exact attentive_of_idle (idle_relists pending relists).1
  | true =>
    obtain ⟨line, awaits⟩ := attentive pending
    have alone : viewer.idle.revealPending = false := rfl
    have exactIdle : viewer.idle.buffer.Exact := exact_
    obtain ⟨-, along⟩ := idle_relists alone relists
    rw [awaits.relists relists]
    exact revealSelected_attentive (after_exact exactIdle operation)
      (along.unfollowed awaits.unfollowed)

/-- A viewer is as attentive after an operation as before. -/
theorem after_attentive (exact_ : viewer.buffer.Exact) (attentive : viewer.Attentive)
    (operation : Operation α) : (viewer.after operation).Attentive := by
  cases operation with
  | append records => exact relists_attentive exact_ attentive trivial
  | scrollToTop now => exact attentive_of_idle rfl
  | input input =>
    cases input with
    | event event => exact relists_attentive exact_ attentive trivial
    | settled now =>
      refine attentive.kept rfl (viewer.viewport.settle_selectedLine viewer.count now) ?_
      intro pending
      simp only [after, fed, settle, Bool.and_eq_true, Bool.not_eq_true'] at pending
      exact ⟨pending.1, fun _ => pending.2⟩
    | action action =>
      cases action with
      | setSearch text => exact relists_attentive exact_ attentive trivial
      | setShowDebug showDebug =>
        rw [after, fed, acted, setShowDebug]
        split
        · exact attentive
        · exact attentive_of_idle rfl
      | toggleFollowTail =>
        -- The viewer waits only where it does not follow, so turning it over ends the waiting.
        apply attentive_of_idle
        cases pending : viewer.revealPending with
        | false => simp [after, fed, acted, toggleFollowTail, pending]
        | true =>
          obtain ⟨line, awaits⟩ := attentive pending
          simp [after, fed, acted, toggleFollowTail, awaits.unfollowed]
      | moveSelection steps =>
        rcases viewer.moveSelection_viewport steps with unmoved | ⟨-, moved, -⟩
        · rw [after, fed, acted, unmoved]
          exact attentive
        · exact attentive_of_idle moved
      | openAt line => exact revealSelected_attentive exact_ rfl
      | selectLine line => exact attentive_of_idle rfl
      | scrollByRows steps now => exact attentive_of_idle rfl
      | scrollTo offset now => exact attentive_of_idle rfl
      | toggleFullscreen => exact attentive.kept rfl rfl fun pending => ⟨pending, id⟩
      | exitFullscreen => exact attentive.kept rfl rfl fun pending => ⟨pending, id⟩
      | resize height =>
        refine attentive.kept rfl (viewer.viewport.resize_selectedLine height viewer.count) ?_
        exact fun pending => ⟨pending, (viewer.viewport.resize_followTail height viewer.count).trans⟩

theorem run_attentive (exact_ : viewer.buffer.Exact) (attentive : viewer.Attentive)
    (operations : List (Operation α)) : (viewer.run operations).Attentive := by
  induction operations generalizing viewer with
  | nil => exact attentive
  | cons operation operations ih =>
    exact ih (after_exact exact_ operation) (after_attentive exact_ attentive operation)

/-! ### The one reveal -/

/-- What brings the line a viewer waits for shows its first row, and what does not leaves it waiting. -/
theorem Awaits.answered (awaits : viewer.Awaits line) (relists : operation.Relists) :
    (∀ position, Buffer.FirstShows (viewer.after operation).buffer.view line position →
        viewer.after operation = (viewer.idle.after operation).revealAt position) ∧
      ((∀ position, ¬ Buffer.ShowsLine (viewer.after operation).buffer.view line position) →
        viewer.after operation = (viewer.idle.after operation).waiting) := by
  have alone : viewer.idle.revealPending = false := rfl
  have exactIdle : viewer.idle.buffer.Exact := awaits.exact_
  have exact_ : (viewer.idle.after operation).buffer.Exact := after_exact exactIdle operation
  have selected : (viewer.idle.after operation).waiting.viewport.selectedLine = some line :=
    (idle_relists alone relists).2.selectedLine.trans awaits.selected
  have buffer : (viewer.after operation).buffer = (viewer.idle.after operation).buffer := by
    rw [awaits.relists relists, revealSelected_buffer]
    rfl
  rw [buffer]
  refine ⟨fun position first => ?_, fun missing => ?_⟩
  · have found := (Buffer.firstShows_iff exact_ line position).mpr first
    rw [awaits.relists relists, revealSelected_found selected found]
    rfl
  · have unfound : (viewer.idle.after operation).buffer.position? line = none :=
      (Buffer.missing_iff exact_ line).mpr missing
    rw [awaits.relists relists, revealSelected_unfound selected unfound]

/-- Whatever was done to a viewer, while a reveal is pending it waits for a line that its view does not
have. A look at the new part of any batch then finds the line where a look at the whole view would. The
event, the records or the search that bring the line reveal its first row, on top of what they do with
nothing pending, and those that do not bring it leave the reveal pending. Once nothing is pending, nothing
is until a line is opened: events, records and searches do not look for a line. -/
theorem awaited_line_revealed_once (layout : Layout α) (job : String) (showDebug : Bool)
    (operations : List (Operation α)) :
    let viewer := (new job layout showDebug).run operations
    (viewer.revealPending = true →
      ∃ line, viewer.Awaits line ∧
        (∀ records, (viewer.buffer.append records).positionFrom? line viewer.count =
          (viewer.buffer.append records).position? line) ∧
        ∀ operation, operation.Relists →
          (∀ position, Buffer.FirstShows (viewer.after operation).buffer.view line position →
            viewer.after operation = (viewer.idle.after operation).revealAt position) ∧
          ((∀ position, ¬ Buffer.ShowsLine (viewer.after operation).buffer.view line position) →
            viewer.after operation = (viewer.idle.after operation).waiting)) ∧
    (viewer.revealPending = false →
      ∀ later : List (Operation α), (∀ operation ∈ later, ¬ operation.Opens) →
        (viewer.run later).revealPending = false ∧
        ∀ operation, operation.Relists →
          (viewer.run later).viewport.GoesAlong ((viewer.run later).after operation).count
            ((viewer.run later).after operation).viewport) := by
  intro viewer
  have started : (new job layout showDebug).buffer.Exact := rfl
  have attentive : viewer.Attentive := run_attentive started (attentive_of_idle rfl) operations
  refine ⟨fun pending => ?_, fun alone later unopened => ?_⟩
  · obtain ⟨line, awaits⟩ := attentive pending
    exact ⟨line, awaits, awaits.position_eq, fun operation relists => awaits.answered relists⟩
  · have still := idle_run alone unopened
    exact ⟨still, fun operation relists => (idle_relists still relists).2⟩

/-- A search hides the eighth of ten lines when it is opened. Another batch leaves the viewer waiting, and
the end of the search reveals the first of the two rows with the line. The next batch has the line once
more, which no one looks for. -/
theorem line_revealed_by_end_of_search :
    let layout : Layout Rat := ⟨20, 2, 10, 100⟩
    let records := (List.range 10).map fun n => (⟨"", "", .info, n.toUInt64⟩ : Record)
    let operations : List (Operation Rat) :=
      [.input (.action (.resize 40)), .input (.action (.setSearch "other")), .append records,
        .input (.action (.openAt 7)), .append records]
    let ended : Operation Rat := .input (.action (.setSearch ""))
    let opened := (new "job" layout false).run operations
    let shown := (new "job" layout false).run (operations ++ [ended])
    opened.revealPending = true ∧ shown = (opened.idle.after ended).revealAt 7 ∧
      shown.viewport.scrollOffset = 120 ∧ shown.revealPending = false ∧
        shown.viewport.GoesAlong 30 (shown.append records).viewport := by
  intro layout records operations ended opened shown
  have pending : opened.revealPending = true := by decide +kernel
  have alone : shown.revealPending = false := by decide +kernel
  obtain ⟨waits, -⟩ := awaited_line_revealed_once layout "job" false operations
  obtain ⟨line, awaits, -, answered⟩ := waits pending
  obtain ⟨-, rests⟩ := awaited_line_revealed_once layout "job" false (operations ++ [ended])
  obtain ⟨-, along⟩ := rests alone [] (by simp)
  have selected : opened.viewport.selectedLine = some 7 := by decide +kernel
  obtain rfl : 7 = line := Option.some.inj (selected.symm.trans awaits.selected)
  have sought : shown.buffer.position? 7 = some 7 := by decide +kernel
  have started : (new "job" layout false).buffer.Exact := rfl
  have exact_ : shown.buffer.Exact := run_exact started _
  have first := (Buffer.firstShows_iff exact_ 7 7).mp sought
  have reached : shown = opened.after ended := run_concat _ operations ended
  rw [reached] at first
  have bound : (shown.append records).count = 30 := by decide +kernel
  have next := along (.append records) trivial
  rw [run, List.foldl_nil, after, bound] at next
  exact ⟨pending, reached.trans ((answered ended trivial).1 7 first), by decide +kernel, alone, next⟩

end Viewer
end LiveLog
