import LiveLog.Proofs.Viewer.Inputs
import Mathlib.Data.List.Induction

/-! Every operation of a viewer, and the few ways in which one can move its view. A viewer that follows
the end of its list has no reveal pending, which leaves nine ways: the view stays, it is pinned to the
end, it is placed, it no longer follows, it is reset, following is switched on or off, the user scrolls,
or a scroll settles. What holds of a viewer after any run of operations is proved from these. -/
namespace LiveLog

/-- Records that arrive do not shorten the view of a buffer. -/
theorem Buffer.count_le_append (buffer : Buffer) (batch : List Record) :
    buffer.count ≤ (buffer.append batch).count := by
  induction batch generalizing buffer with
  | nil => exact Nat.le_refl _
  | cons record batch ih =>
    have pushed : buffer.count ≤ (buffer.push record).count := by
      rw [Buffer.push_eq, count, count]
      dsimp only
      split
      · rw [Array.size_push]
        exact Nat.le_succ _
      · exact Nat.le_refl _
    exact Nat.le_trans pushed (ih (buffer.push record))

namespace Viewport

variable {α : Type} [Scalar α]

@[simp]
theorem afterAppend_followTail (view : Viewport α) (count : Nat) :
    (view.afterAppend count).followTail = view.followTail := by
  unfold afterAppend
  split <;> rfl

@[simp]
theorem afterAppend_selectedLine (view : Viewport α) (count : Nat) :
    (view.afterAppend count).selectedLine = view.selectedLine := by
  unfold afterAppend
  split <;> rfl

@[simp]
theorem afterAppend_containerHeight (view : Viewport α) (count : Nat) :
    (view.afterAppend count).containerHeight = view.containerHeight := by
  unfold afterAppend
  split <;> rfl

theorem settle_containerHeight (view : Viewport α) (count now : Nat) :
    (view.settle count now).containerHeight = view.containerHeight := by
  unfold settle
  split
  · split <;> rfl
  · rfl

theorem resize_followTail (view : Viewport α) (height : α) (count : Nat) :
    (view.resize height count).followTail = view.followTail := by
  unfold resize
  split <;> rfl

theorem resize_containerHeight (view : Viewport α) (height : α) (count : Nat) :
    (view.resize height count).containerHeight = Scalar.atLeastZero height := by
  unfold resize
  split <;> rfl

end Viewport

namespace Viewer

variable {α : Type}

/-- What can be done to a viewer: something comes to it, decoded records are appended, or it is
scrolled to the top. -/
inductive Operation (α : Type) where
  | input (input : Input α)
  | append (records : List Record)
  | scrollToTop (now : Nat)

/-- When a user scrolls, if an operation is a scroll. -/
def Operation.scrolledAt? : Operation α → Option Nat
  | .input (.action (.scrollTo _ now)) => some now
  | .input (.action (.scrollByRows _ now)) => some now
  | .scrollToTop now => some now
  | _ => none

/-- The height an operation gives the container, if it resizes it. -/
def Operation.height? : Operation α → Option α
  | .input (.action (.resize height)) => some height
  | _ => none

variable [Scalar α] {viewer : Viewer α}

/-- The viewer after an operation. -/
def after (viewer : Viewer α) : Operation α → Viewer α
  | .input input => viewer.fed input
  | .append records => viewer.append records
  | .scrollToTop now => viewer.scrollToTop now

/-- The viewer after operations in their order. -/
def run (viewer : Viewer α) (operations : List (Operation α)) : Viewer α :=
  operations.foldl after viewer

theorem run_append (viewer : Viewer α) (first second : List (Operation α)) :
    viewer.run (first ++ second) = (viewer.run first).run second :=
  List.foldl_append

theorem run_concat (viewer : Viewer α) (operations : List (Operation α)) (operation : Operation α) :
    viewer.run (operations ++ [operation]) = (viewer.run operations).after operation :=
  List.foldl_concat _ _ _ _

/-- The view of the buffer is exact after an operation, as it was before. -/
theorem after_exact (exact_ : viewer.buffer.Exact) (operation : Operation α) :
    (viewer.after operation).buffer.Exact := by
  cases operation with
  | input input => exact fed_exact exact_ input
  | append records =>
    rw [after, append_buffer]
    exact Buffer.append_exact exact_ records
  | scrollToTop now => exact exact_

theorem run_exact (exact_ : viewer.buffer.Exact) (operations : List (Operation α)) :
    (viewer.run operations).buffer.Exact := by
  induction operations generalizing viewer with
  | nil => exact exact_
  | cons operation operations ih => exact ih (after_exact exact_ operation)

/-! ### What the branching operations do -/

/-- The viewer with more records, before a pending reveal is looked at. -/
def grown (viewer : Viewer α) (records : List Record) : Viewer α :=
  { viewer with
    buffer := viewer.buffer.append records
    viewport := viewer.viewport.afterAppend (viewer.buffer.append records).count }

/-- Records that arrive carry out a pending reveal if they bring the line. Otherwise following the end
is all that makes a difference. -/
theorem append_cases (viewer : Viewer α) {records : List Record} (some_ : records ≠ []) :
    (viewer.append records =
        { viewer.grown records with
          revealPending := viewer.revealPending && !viewer.viewport.followTail } ∧
      ∀ line, viewer.revealPending = true → viewer.viewport.followTail = false →
        viewer.viewport.selectedLine = some line →
          (viewer.buffer.append records).positionFrom? line viewer.count = none) ∨
      (viewer.revealPending = true ∧ viewer.viewport.followTail = false ∧
        ∃ line position, viewer.viewport.selectedLine = some line ∧
          (viewer.buffer.append records).positionFrom? line viewer.count = some position ∧
          viewer.append records = (viewer.grown records).revealAt position) := by
  have filled : records.isEmpty = false := by simpa using some_
  cases pending : viewer.revealPending with
  | false => exact .inl ⟨by simp [append, filled, grown, pending], by simp⟩
  | true =>
    cases following : viewer.viewport.followTail with
    | true => exact .inl ⟨by simp [append, filled, grown, pending, following], by simp⟩
    | false =>
      cases line? : viewer.viewport.selectedLine with
      | none =>
        exact .inl ⟨by simp [append, filled, grown, pending, following, line?], by simp⟩
      | some line =>
        cases found : (viewer.buffer.append records).positionFrom? line viewer.count with
        | none =>
          refine .inl ⟨by simp [append, filled, grown, pending, following, line?, found], ?_⟩
          rintro _ - - ⟨⟩
          exact found
        | some position =>
          exact .inr ⟨rfl, rfl, line, position, rfl, found,
            by simp [append, filled, grown, pending, following, line?, found]⟩

/-- An event is an append of the records it brings, apart from the status. -/
theorem apply_appends (viewer : Viewer α) (event : StreamEvent) :
    ∃ status, viewer.apply event = { viewer.append event.records with status } := by
  cases event with
  | opened => exact ⟨.live, rfl⟩
  | batch raw => exact ⟨_, rfl⟩
  | error message retryCount => exact ⟨.reconnecting retryCount message, rfl⟩

/-- Showing a row moves the offset to somewhere in the list. -/
theorem reveal_places (view : Viewport α) (index count : Nat) :
    ∃ target, view.reveal index count =
      { view with scrollOffset := view.clampOffset count target } :=
  ⟨_, rfl⟩

/-- Showing the selected line moves the offset to somewhere in the list, or not at all. -/
theorem revealSelected_viewport (viewer : Viewer α) :
    viewer.revealSelected.viewport = viewer.viewport ∨
      ∃ target, viewer.revealSelected.viewport =
        { viewer.viewport with scrollOffset := viewer.viewport.clampOffset viewer.count target } := by
  unfold revealSelected
  split
  · exact .inl rfl
  · split
    · exact .inr ⟨_, rfl⟩
    · exact .inl rfl

/-- The viewer with the records another text leaves, before a pending reveal is looked at. -/
def searched (viewer : Viewer α) (text : String) : Viewer α :=
  let buffer := viewer.buffer.setFilter (viewer.buffer.filter.withText text)
  { viewer with
    buffer
    viewport :=
      if viewer.buffer.filter.text.isEmpty != text.isEmpty then viewer.viewport.resetToTop
      else if viewer.viewport.followTail then viewer.viewport.scrollToBottom buffer.count
      else viewer.viewport.clamp buffer.count }

/-- A search for another text carries out a pending reveal if the new list has the line. -/
theorem setSearch_eq (viewer : Viewer α) {text : String} (other : viewer.buffer.filter.text ≠ text) :
    viewer.setSearch text =
      if viewer.revealPending then (viewer.searched text).revealSelected
      else viewer.searched text :=
  if_neg other

/-- A move of the selection changes nothing, or it ends the following and shows a row. -/
theorem moveSelection_viewport (viewer : Viewer α) (steps : Int) :
    viewer.moveSelection steps = (viewer, none) ∨
      (viewer.moveSelection steps).2.isSome ∧ (viewer.moveSelection steps).1.revealPending = false ∧
        ∃ line target, (viewer.moveSelection steps).1.viewport =
          { viewer.viewport with
            followTail := false
            selectedLine := line
            scrollOffset := viewer.viewport.clampOffset viewer.count target } := by
  unfold moveSelection
  split
  · exact .inl rfl
  · dsimp only
    split
    · exact .inl rfl
    · exact .inr ⟨rfl, rfl, _, _, rfl⟩

/-! ### Ways to move the view -/

/-- A viewer that follows the end has no reveal pending. -/
def Undistracted (viewer : Viewer α) : Prop :=
  viewer.viewport.followTail = true → viewer.revealPending = false

/-- Records arrive, the container is resized, another filter is set, or the following is turned over:
after these a viewer that follows stands at the very end. -/
def Renews (viewer : Viewer α) : Operation α → Prop
  | .append records => records ≠ []
  | .input (.event event) => event.records ≠ []
  | .input (.action (.resize _)) => True
  | .input (.action (.setSearch text)) => viewer.buffer.filter.text ≠ text
  | .input (.action (.setShowDebug showDebug)) => viewer.buffer.filter.showVerbose ≠ showDebug
  | .input (.action .toggleFollowTail) => True
  | _ => False

/-- The container is resized, another text is searched for, a line is opened, or the selection moves:
these may put the view elsewhere although no one scrolls. -/
def Displaces (viewer : Viewer α) : Operation α → Prop
  | .input (.action (.resize _)) => True
  | .input (.action (.setSearch text)) => viewer.buffer.filter.text ≠ text
  | .input (.action (.openAt _)) => True
  | .input (.action (.moveSelection steps)) => (viewer.moveSelection steps).2.isSome
  | _ => False

/-- How an operation moves the view of a viewer that is not distracted from following the end. -/
inductive Turn (viewer : Viewer α) (operation : Operation α) (later : Viewer α) : Prop
  | stayed (line : Option UInt64) (full : Bool) (unscrolled : operation.scrolledAt? = none)
      (unrenewed : viewer.viewport.followTail = true → ¬ viewer.Renews operation)
      (view : later.viewport = { viewer.viewport with selectedLine := line, isFullscreen := full })
      (longer : viewer.count ≤ later.count)
      (kept : viewer.viewport.followTail = true → later.count = viewer.count)
      (idle : viewer.revealPending = false → later.revealPending = false)
  | pinned (height : α) (unscrolled : operation.scrolledAt? = none)
      (follows : viewer.viewport.followTail = true)
      (view : later.viewport =
        { viewer.viewport with containerHeight := height }.scrollToBottom later.count)
      (alone : later.revealPending = false)
  | placed (height target : α) (line : Option UInt64) (unscrolled : operation.scrolledAt? = none)
      (cause : viewer.revealPending = true ∨ viewer.Displaces operation)
      (view : later.viewport =
        { viewer.viewport with
          followTail := false
          containerHeight := height
          selectedLine := line
          scrollOffset :=
            { viewer.viewport with containerHeight := height }.clampOffset later.count target })
  | released (line : Option UInt64) (unscrolled : operation.scrolledAt? = none)
      (cause : viewer.Displaces operation)
      (view : later.viewport = { viewer.viewport with followTail := false, selectedLine := line })
      (kept : later.count = viewer.count)
  | reset (unscrolled : operation.scrolledAt? = none) (cause : viewer.Displaces operation)
      (view : later.viewport = viewer.viewport.resetToTop ∨ ∃ target, later.viewport =
        { viewer.viewport.resetToTop with
          scrollOffset := viewer.viewport.clampOffset later.count target })
  | switchedOn
      (cause : operation = .input (.action .toggleFollowTail) ∨
        ∃ showDebug, operation = .input (.action (.setShowDebug showDebug)))
      (view : later.viewport = viewer.viewport.setFollowTail true later.count)
      (alone : later.revealPending = false)
  | switchedOff (cause : operation = .input (.action .toggleFollowTail))
      (view : later.viewport = viewer.viewport.setFollowTail false later.count)
      (kept : later.count = viewer.count)
  | scrolled (target : α) (now : Nat) (scrolls : operation.scrolledAt? = some now)
      (view : later.viewport = viewer.viewport.scrollTo target viewer.count now)
      (kept : later.count = viewer.count) (alone : later.revealPending = false)
  | settled (due now : Nat) (cause : operation = .input (.settled now))
      (armed : viewer.viewport.settleAt = some due) (reached : due ≤ now)
      (view : later.viewport =
        { viewer.viewport with
          settleAt := none
          followTail := viewer.viewport.isAtBottom viewer.count })
      (kept : later.count = viewer.count) (alone : later.Undistracted)

/-! ### The way of each operation -/

/-- What changes nothing leaves the view where it is. -/
theorem Turn.unmoved {operation : Operation α} (unscrolled : operation.scrolledAt? = none)
    (unrenewed : ¬ viewer.Renews operation) : Turn viewer operation viewer := by
  refine .stayed viewer.viewport.selectedLine viewer.viewport.isFullscreen unscrolled ?_ rfl
    (Nat.le_refl _) (fun _ => rfl) id
  exact fun _ => unrenewed

/-- Records that arrive leave the view, pin it to the end, or show a line that was waited for. -/
theorem append_turn (viewer : Viewer α) {operation : Operation α}
    (unscrolled : operation.scrolledAt? = none) (records : List Record)
    (renews : viewer.Renews operation → records ≠ []) (status : Status) :
    Turn viewer operation { viewer.append records with status } := by
  by_cases some_ : records = []
  · subst some_
    exact .stayed viewer.viewport.selectedLine viewer.viewport.isFullscreen unscrolled
      (fun _ renewed => renews renewed rfl) rfl (Nat.le_refl _) (fun _ => rfl) id
  · have longer : viewer.count ≤ (viewer.grown records).count := Buffer.count_le_append _ _
    rcases viewer.append_cases some_ with
      ⟨plain, -⟩ | ⟨pending, unfollowed, line, position, -, -, shown⟩
    · rw [plain]
      cases follows : viewer.viewport.followTail with
      | true =>
        refine .pinned viewer.viewport.containerHeight unscrolled follows ?_ (Bool.and_false _)
        exact if_pos follows
      | false =>
        refine .stayed viewer.viewport.selectedLine viewer.viewport.isFullscreen unscrolled
          (by simp [follows]) ?_ longer (by simp [follows]) ?_
        · exact if_neg (by simp [follows])
        · simp
    · rw [shown]
      have same : (viewer.grown records).viewport = viewer.viewport :=
        if_neg (by simp [unfollowed])
      obtain ⟨target, placed⟩ := reveal_places viewer.viewport position (viewer.grown records).count
      refine .placed viewer.viewport.containerHeight target viewer.viewport.selectedLine unscrolled
        (.inl pending) ?_
      calc (viewer.grown records).viewport.reveal position (viewer.grown records).count
          = viewer.viewport.reveal position (viewer.grown records).count := by rw [same]
        _ = _ := by rw [placed, ← unfollowed]; rfl

/-- A search for another text resets the view, pins it, or brings its offset into the new list. -/
theorem setSearch_turn (undistracted : viewer.Undistracted) (text : String) :
    Turn viewer (.input (.action (.setSearch text))) (viewer.setSearch text) := by
  by_cases same : viewer.buffer.filter.text = text
  · have unchanged : viewer.setSearch text = viewer := if_pos same
    rw [unchanged]
    exact .unmoved rfl fun renewed => renewed same
  · have sought : (viewer.searched text).viewport =
        if viewer.buffer.filter.text.isEmpty != text.isEmpty then viewer.viewport.resetToTop
        else if viewer.viewport.followTail then
          viewer.viewport.scrollToBottom (viewer.searched text).count
        else viewer.viewport.clamp (viewer.searched text).count := rfl
    have shown : (viewer.setSearch text).count = (viewer.searched text).count ∧
        ((viewer.setSearch text).viewport = (viewer.searched text).viewport ∨
          ∃ target, (viewer.setSearch text).viewport =
            { (viewer.searched text).viewport with
              scrollOffset :=
                (viewer.searched text).viewport.clampOffset (viewer.searched text).count target }) := by
      rw [viewer.setSearch_eq same]
      split
      · exact ⟨congrArg Buffer.count (revealSelected_buffer _), revealSelected_viewport _⟩
      · exact ⟨rfl, .inl rfl⟩
    rw [← shown.1] at sought shown
    split at sought
    · refine .reset rfl same ?_
      rcases shown.2 with view | ⟨target, view⟩
      · exact .inl (view.trans sought)
      · rw [sought] at view
        exact .inr ⟨target, view⟩
    · cases follows : viewer.viewport.followTail with
      | true =>
        have plain : viewer.setSearch text = viewer.searched text := by
          rw [viewer.setSearch_eq same, undistracted follows]
          rfl
        rw [if_pos follows] at sought
        refine .pinned viewer.viewport.containerHeight rfl follows ?_ ?_
        · rw [plain] at sought ⊢
          exact sought
        · rw [plain]
          exact undistracted follows
      | false =>
        rw [if_neg (by simp [follows])] at sought
        rcases shown.2 with view | ⟨target, view⟩
        · refine .placed viewer.viewport.containerHeight viewer.viewport.scrollOffset
            viewer.viewport.selectedLine rfl (.inr same) ?_
          rw [view, sought, ← follows]
          rfl
        · refine .placed viewer.viewport.containerHeight target viewer.viewport.selectedLine rfl
            (.inr same) ?_
          rw [view, sought, ← follows]
          rfl

/-- A change of what is shown goes to the newest records, and follows them. -/
theorem setShowDebug_turn (viewer : Viewer α) (showDebug : Bool) :
    Turn viewer (.input (.action (.setShowDebug showDebug))) (viewer.setShowDebug showDebug) := by
  by_cases same : viewer.buffer.filter.showVerbose = showDebug
  · have unchanged : viewer.setShowDebug showDebug = viewer := if_pos same
    rw [unchanged]
    exact .unmoved rfl fun renewed => renewed same
  · rw [setShowDebug, if_neg same]
    exact .switchedOn (.inr ⟨showDebug, rfl⟩) rfl rfl

/-- The following is switched off where it was on, and on where it was off. -/
theorem toggleFollowTail_turn (viewer : Viewer α) :
    Turn viewer (.input (.action .toggleFollowTail)) viewer.toggleFollowTail := by
  cases follows : viewer.viewport.followTail with
  | true =>
    refine .switchedOff rfl ?_ rfl
    simp [toggleFollowTail, follows, count]
  | false =>
    refine .switchedOn (.inl rfl) ?_ ?_
    · simp [toggleFollowTail, follows, count]
    · simp [toggleFollowTail, follows]

/-- A move of the selection shows the row moved to, or changes nothing. -/
theorem moveSelection_turn (viewer : Viewer α) (steps : Int) :
    Turn viewer (.input (.action (.moveSelection steps))) (viewer.moveSelection steps).1 := by
  rcases viewer.moveSelection_viewport steps with unmoved | ⟨moved, -, line, target, view⟩
  · rw [unmoved]
    exact .unmoved rfl id
  · refine .placed viewer.viewport.containerHeight target line rfl (.inr moved) ?_
    rw [count, moveSelection_buffer]
    exact view

/-- A line that is opened ends the following, and its row is shown if it is there. -/
theorem openAt_turn (viewer : Viewer α) (line : UInt64) :
    Turn viewer (.input (.action (.openAt line))) (viewer.openAt line) := by
  have kept : (viewer.openAt line).count = viewer.count :=
    congrArg Buffer.count (revealSelected_buffer _)
  rcases revealSelected_viewport { viewer.selectLine (some line) with
    viewport := { (viewer.selectLine (some line)).viewport with followTail := false }
    revealPending := true } with view | ⟨target, view⟩
  · exact .released (some line) rfl trivial view kept
  · refine .placed viewer.viewport.containerHeight target (some line) rfl (.inr trivial) ?_
    rw [kept]
    exact view

/-- A container that takes another height is pinned to the end, or keeps its offset if it can. -/
theorem resize_turn (undistracted : viewer.Undistracted) (height : α) :
    Turn viewer (.input (.action (.resize height))) (viewer.resize height) := by
  cases follows : viewer.viewport.followTail with
  | true =>
    refine .pinned (Scalar.atLeastZero height) rfl follows ?_ (undistracted follows)
    exact if_pos follows
  | false =>
    refine .placed (Scalar.atLeastZero height) viewer.viewport.scrollOffset
      viewer.viewport.selectedLine rfl (.inr trivial) ?_
    rw [← follows]
    exact if_neg (by simp [follows])

/-- The look at a scroll is too early or has nothing to look at, or it decides the following. -/
theorem settle_turn (viewer : Viewer α) (now : Nat) :
    Turn viewer (.input (.settled now)) (viewer.settle now) := by
  have unsettled (same : viewer.viewport.settle viewer.count now = viewer.viewport) :
      Turn viewer (.input (.settled now)) (viewer.settle now) := by
    refine .stayed viewer.viewport.selectedLine viewer.viewport.isFullscreen rfl (fun _ => id) same
      (Nat.le_refl _) (fun _ => rfl) ?_
    intro idle
    simp [settle, idle]
  cases armed : viewer.viewport.settleAt with
  | none => exact unsettled (by rw [Viewport.settle, armed])
  | some due =>
    by_cases reached : due ≤ now
    · refine .settled due now rfl armed reached ?_ rfl ?_
      · rw [settle, Viewport.settle, armed]
        exact if_pos reached
      · intro follows
        simp only [settle] at follows ⊢
        rw [follows]
        exact Bool.and_false _
    · refine unsettled ?_
      rw [Viewport.settle, armed]
      exact if_neg reached

/-- Every operation moves the view in one of these ways. -/
theorem after_turn (undistracted : viewer.Undistracted) (operation : Operation α) :
    Turn viewer operation (viewer.after operation) := by
  cases operation with
  | append records => exact viewer.append_turn rfl records id _
  | scrollToTop now => exact .scrolled Scalar.zero now rfl rfl rfl rfl
  | input input =>
    cases input with
    | event event =>
      obtain ⟨status, applied⟩ := viewer.apply_appends event
      rw [after, fed, applied]
      exact viewer.append_turn rfl event.records id status
    | settled now => exact viewer.settle_turn now
    | action action =>
      cases action with
      | setSearch text => exact setSearch_turn undistracted text
      | setShowDebug showDebug => exact viewer.setShowDebug_turn showDebug
      | toggleFollowTail => exact viewer.toggleFollowTail_turn
      | moveSelection steps => exact viewer.moveSelection_turn steps
      | openAt line => exact viewer.openAt_turn line
      | resize height => exact resize_turn undistracted height
      | scrollByRows steps now => exact .scrolled _ now rfl rfl rfl rfl
      | scrollTo offset now => exact .scrolled offset now rfl rfl rfl rfl
      | selectLine line =>
        exact .stayed line viewer.viewport.isFullscreen rfl (fun _ => id) rfl (Nat.le_refl _)
          (fun _ => rfl) (fun _ => rfl)
      | toggleFullscreen =>
        exact .stayed viewer.viewport.selectedLine (!viewer.viewport.isFullscreen) rfl (fun _ => id)
          rfl (Nat.le_refl _) (fun _ => rfl) id
      | exitFullscreen =>
        exact .stayed viewer.viewport.selectedLine false rfl (fun _ => id) rfl (Nat.le_refl _)
          (fun _ => rfl) id

/-! ### Why a viewer follows the end -/

/-- What lets a viewer follow the end after an operation: it did before and nothing was renewed, it was
brought to the greatest offset, it scrolled no further than the bottom, or a scroll settled there. -/
inductive Follows (viewer : Viewer α) (operation : Operation α) (later : Viewer α) : Prop
  | still (before : viewer.viewport.followTail = true) (unrenewed : ¬ viewer.Renews operation)
      (sight : later.viewport.isAtBottom later.count = viewer.viewport.isAtBottom viewer.count)
      (idle : viewer.revealPending = false → later.revealPending = false)
  | brought (offset : later.viewport.scrollOffset = later.viewport.maxScroll later.count)
      (cause : viewer.viewport.followTail = true ∨
        operation = .input (.action .toggleFollowTail) ∨
        ∃ showDebug, operation = .input (.action (.setShowDebug showDebug)))
      (alone : later.revealPending = false)
  | scrolled (now : Nat) (scrolls : operation.scrolledAt? = some now)
      (before : viewer.viewport.followTail = true)
      (bottom : later.viewport.isAtBottom later.count = true) (alone : later.revealPending = false)
  | settled (due now : Nat) (cause : operation = .input (.settled now))
      (armed : viewer.viewport.settleAt = some due) (reached : due ≤ now)
      (bottom : viewer.viewport.isAtBottom viewer.count = true)
      (sight : later.viewport.isAtBottom later.count = viewer.viewport.isAtBottom viewer.count)
      (alone : later.revealPending = false)

variable {later : Viewer α} {operation : Operation α}

theorem Turn.follows (turn : Turn viewer operation later)
    (following : later.viewport.followTail = true) : Follows viewer operation later := by
  -- The ways that end the following contradict the assumption.
  cases turn with
  | stayed line full unscrolled unrenewed view longer kept idle =>
    rw [view] at following
    refine .still following (unrenewed following) ?_ idle
    rw [view, kept following]
    rfl
  | pinned height unscrolled followed view alone =>
    refine .brought ?_ (.inl followed) alone
    rw [view]
    rfl
  | placed height target line unscrolled cause view =>
    rw [view] at following
    exact absurd following Bool.false_ne_true
  | released line unscrolled cause view kept =>
    rw [view] at following
    exact absurd following Bool.false_ne_true
  | reset unscrolled cause view =>
    rcases view with view | ⟨target, view⟩ <;>
      · rw [view] at following
        exact absurd following Bool.false_ne_true
  | switchedOn cause view alone =>
    refine .brought ?_ (.inr cause) alone
    rw [view]
    rfl
  | switchedOff cause view kept =>
    rw [view] at following
    exact absurd following Bool.false_ne_true
  | scrolled target now scrolls view kept alone =>
    rw [view] at following
    obtain ⟨before, bottom⟩ := Bool.and_eq_true_iff.mp following
    refine .scrolled now scrolls before ?_ alone
    rw [view, kept]
    exact bottom
  | settled due now cause armed reached view kept alone =>
    have idle : later.revealPending = false := alone following
    rw [view] at following
    refine .settled due now cause armed reached following ?_ idle
    rw [view, kept]
    rfl

/-- A viewer that follows has nothing pending, if it had nothing pending when it followed before. -/
theorem Turn.undistracted (turn : Turn viewer operation later) (before : viewer.Undistracted) :
    later.Undistracted := by
  intro following
  cases turn.follows following with
  | still followed unrenewed sight idle => exact idle (before followed)
  | brought offset cause alone => exact alone
  | scrolled now scrolls followed bottom alone => exact alone
  | settled due now cause armed reached bottom sight alone => exact alone

/-! ### What every run keeps -/

theorem Turn.layout (turn : Turn viewer operation later) :
    later.viewport.layout = viewer.viewport.layout := by
  cases turn with
  | stayed line full unscrolled unrenewed view longer kept idle => rw [view]
  | pinned height unscrolled follows view alone => rw [view, Viewport.scrollToBottom]
  | placed height target line unscrolled cause view => rw [view]
  | released line unscrolled cause view kept => rw [view]
  | reset unscrolled cause view =>
    rcases view with view | ⟨target, view⟩ <;> rw [view, Viewport.resetToTop]
  | switchedOn cause view alone =>
    rw [view]
    rfl
  | switchedOff cause view kept =>
    rw [view]
    rfl
  | scrolled target now scrolls view kept alone => rw [view, Viewport.scrollTo]
  | settled due now cause armed reached view kept alone => rw [view]

theorem run_undistracted (undistracted : viewer.Undistracted) (operations : List (Operation α)) :
    (viewer.run operations).Undistracted ∧
      (viewer.run operations).viewport.layout = viewer.viewport.layout := by
  induction operations using List.reverseRecOn with
  | nil => exact ⟨undistracted, rfl⟩
  | append_singleton operations operation ih =>
    have turn := after_turn ih.1 operation
    rw [run_concat]
    exact ⟨turn.undistracted ih.1, turn.layout.trans ih.2⟩

private theorem revealSelected_height (viewer : Viewer α) :
    viewer.revealSelected.viewport.containerHeight = viewer.viewport.containerHeight := by
  rcases viewer.revealSelected_viewport with view | ⟨target, view⟩ <;> rw [view]

private theorem append_height (viewer : Viewer α) (records : List Record) :
    (viewer.append records).viewport.containerHeight = viewer.viewport.containerHeight := by
  by_cases some_ : records = []
  · subst some_
    rfl
  · rcases viewer.append_cases some_ with ⟨plain, -⟩ | ⟨-, -, line, position, -, -, shown⟩
    · rw [plain]
      exact viewer.viewport.afterAppend_containerHeight _
    · rw [shown]
      exact viewer.viewport.afterAppend_containerHeight _

private theorem setSearch_height (viewer : Viewer α) (text : String) :
    (viewer.setSearch text).viewport.containerHeight = viewer.viewport.containerHeight := by
  by_cases same : viewer.buffer.filter.text = text
  · rw [show viewer.setSearch text = viewer from if_pos same]
  · have sought : (viewer.searched text).viewport.containerHeight =
        viewer.viewport.containerHeight := by
      simp only [searched]
      split
      · rfl
      · split <;> rfl
    rw [viewer.setSearch_eq same]
    split
    · exact (revealSelected_height _).trans sought
    · exact sought

/-- The height of the container is the one it was resized to last. -/
theorem after_height (viewer : Viewer α) (operation : Operation α) :
    (viewer.after operation).viewport.containerHeight =
      operation.height?.elim viewer.viewport.containerHeight Scalar.atLeastZero := by
  cases operation with
  | append records => exact viewer.append_height records
  | scrollToTop now => rfl
  | input input =>
    cases input with
    | event event =>
      obtain ⟨status, applied⟩ := viewer.apply_appends event
      rw [after, fed, applied]
      exact viewer.append_height event.records
    | settled now => exact viewer.viewport.settle_containerHeight viewer.count now
    | action action =>
      cases action with
      | setSearch text => exact viewer.setSearch_height text
      | setShowDebug showDebug =>
        rw [after, fed, acted, setShowDebug]
        split <;> rfl
      | toggleFollowTail =>
        cases follows : viewer.viewport.followTail <;>
          simp [after, fed, acted, toggleFollowTail, follows, Viewport.setFollowTail,
            Viewport.scrollToBottom, Operation.height?]
      | moveSelection steps =>
        rcases viewer.moveSelection_viewport steps with unmoved | ⟨-, -, line, target, view⟩
        · rw [after, fed, acted, unmoved]
          rfl
        · rw [after, fed, acted, view]
          rfl
      | openAt line => exact revealSelected_height _
      | resize height => exact viewer.viewport.resize_containerHeight height viewer.count
      | _ => rfl

/-- A viewer just made follows the end, with nothing pending. -/
theorem new_undistracted (job : String) (layout : Layout α) (showDebug : Bool) :
    (new job layout showDebug).Undistracted :=
  fun _ => rfl

/-- In every run from a new viewer nothing is pending while the end is followed, and the layout stays. -/
theorem run_steady (job : String) (layout : Layout α) (showDebug : Bool)
    (operations : List (Operation α)) :
    ((new job layout showDebug).run operations).Undistracted ∧
      ((new job layout showDebug).run operations).viewport.layout = layout :=
  run_undistracted (new_undistracted job layout showDebug) operations

end Viewer
end LiveLog
