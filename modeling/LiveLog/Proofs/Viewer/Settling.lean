import LiveLog.Proofs.Viewer.Tail

/-! A scroll that lands at the bottom is to resume the following of the end once it has settled. Whether
it does is decided only when the settling is looked at, by the list and the container of that moment. So
records that arrive in between can undo the landing, and an operation that moves the view can bring a
viewer to follow that never landed, or that was sent elsewhere since. -/
namespace LiveLog.Viewer

variable {α : Type}

/-- What comes about without the user before a scroll is due to have settled: events and records arrive,
or the clock is looked at early. -/
def Operation.Arrives (due : Nat) : Operation α → Prop
  | .input (.event _) => True
  | .append _ => True
  | .input (.settled now) => now < due
  | _ => False

/-- The latest scroll of a run, what was done before it and since. -/
structure LatestScroll (operations before : List (Operation α)) (scroll : Operation α) (time : Nat)
    (since : List (Operation α)) : Prop where
  parts : operations = before ++ scroll :: since
  scrolls : scroll.scrolledAt? = some time
  unscrolled : ∀ operation ∈ since, operation.scrolledAt? = none

variable [Scalar α] {viewer later : Viewer α} {operation : Operation α}

/-- None of the operations displaces the view when its turn comes. -/
def Undisplaced (viewer : Viewer α) (operations : List (Operation α)) : Prop :=
  ∀ earlier operation rest, operations = earlier ++ operation :: rest →
    ¬ (viewer.run earlier).Displaces operation

/-- Nothing came between a viewer that landed and what it is later: it follows the end if it did then,
and otherwise it has the same rows in sight, of a list that has only grown. -/
structure Undisturbed (landed later : Viewer α) : Prop where
  idle : later.revealPending = false
  following : later.viewport.followTail = landed.viewport.followTail
  sight : landed.viewport.followTail = false →
    ∀ count, later.viewport.isAtBottom count = landed.viewport.isAtBottom count
  longer : landed.viewport.followTail = false → landed.count ≤ later.count

theorem Undisturbed.trans {landed : Viewer α} (first : Undisturbed landed viewer)
    (second : Undisturbed viewer later) : Undisturbed landed later where
  idle := second.idle
  following := second.following.trans first.following
  sight unfollowed count := by
    rw [second.sight (first.following.trans unfollowed), first.sight unfollowed]
  longer unfollowed :=
    Nat.le_trans (first.longer unfollowed) (second.longer (first.following.trans unfollowed))

/-! ### One operation -/

/-- What becomes of the time at which a scroll is to be looked at: a scroll sets it, a change of the
following or the look itself drops it, and everything else keeps it. -/
inductive Watch (viewer : Viewer α) (operation : Operation α) (later : Viewer α) : Prop
  | set (now : Nat) (scrolls : operation.scrolledAt? = some now)
      (time : later.viewport.settleAt = some (now + viewer.viewport.layout.scrollSettle))
      (idle : later.revealPending = false)
      (bottom : later.viewport.followTail = true → later.viewport.isAtBottom later.count = true)
  | dropped (unscrolled : operation.scrolledAt? = none) (gone : later.viewport.settleAt = none)
      (called : ∀ due, viewer.viewport.settleAt = some due → ¬ operation.Arrives due)
  | kept (unscrolled : operation.scrolledAt? = none)
      (same : later.viewport.settleAt = viewer.viewport.settleAt)
      (undisturbed : ¬ viewer.Displaces operation → viewer.revealPending = false →
        Undisturbed viewer later)

/-- What arrives is not the user's doing: it is no scroll and displaces nothing. -/
theorem undisplaced_of_arrives {due : Nat} (arrives : operation.Arrives due) :
    operation.scrolledAt? = none ∧ ∀ viewer : Viewer α, ¬ viewer.Displaces operation := by
  cases operation with
  | append records => exact ⟨rfl, fun _ => id⟩
  | scrollToTop now => exact arrives.elim
  | input input =>
    cases input with
    | event event => exact ⟨rfl, fun _ => id⟩
    | settled now => exact ⟨rfl, fun _ => id⟩
    | action action => exact arrives.elim

theorem Turn.watch (turn : Turn viewer operation later) : Watch viewer operation later := by
  cases turn with
  | stayed line full unscrolled unrenewed view longer kept idle =>
    refine .kept unscrolled (by rw [view]) ?_
    intro _ alone
    refine ⟨idle alone, by rw [view], ?_, fun _ => longer⟩
    intro _ count
    rw [view]
    rfl
  | pinned height unscrolled follows view alone =>
    refine .kept unscrolled (by rw [view, Viewport.scrollToBottom]) ?_
    intro _ _
    refine ⟨alone, by rw [view, Viewport.scrollToBottom], ?_, ?_⟩
    · intro unfollowed
      simp [follows] at unfollowed
    · intro unfollowed
      simp [follows] at unfollowed
  | placed height target line unscrolled cause view =>
    refine .kept unscrolled (by rw [view]) ?_
    intro undisplaced idle
    rcases cause with pending | displaces
    · simp [idle] at pending
    · exact absurd displaces undisplaced
  | released line unscrolled displaces view kept =>
    refine .kept unscrolled (by rw [view]) ?_
    intro undisplaced
    exact absurd displaces undisplaced
  | reset unscrolled displaces view =>
    refine .dropped unscrolled ?_ ?_
    · rcases view with view | ⟨target, view⟩ <;> rw [view, Viewport.resetToTop]
    · intro due _ arrives
      exact (undisplaced_of_arrives arrives).2 viewer displaces
  | switchedOn cause view alone =>
    have gone : later.viewport.settleAt = none := by
      rw [view]
      rfl
    rcases cause with rfl | ⟨showDebug, rfl⟩
    · exact .dropped rfl gone fun _ _ => id
    · exact .dropped rfl gone fun _ _ => id
  | switchedOff cause view kept =>
    subst cause
    refine .dropped rfl ?_ fun _ _ => id
    rw [view]
    rfl
  | scrolled target now scrolls view kept alone =>
    refine .set now scrolls (by rw [view, Viewport.scrollTo]) alone ?_
    intro follows
    rw [view] at follows ⊢
    rw [kept]
    exact (Bool.and_eq_true_iff.mp follows).2
  | settled due now cause armed reached view kept alone =>
    subst cause
    refine .dropped rfl (by rw [view]) ?_
    intro other armedToo early
    obtain rfl : due = other := Option.some.inj (armed.symm.trans armedToo)
    exact absurd early (Nat.not_lt.mpr reached)

/-- The look at a scroll that has settled decides the following by what is in sight. -/
theorem settled_following {due now : Nat} (armed : viewer.viewport.settleAt = some due)
    (reached : due ≤ now) :
    (viewer.after (.input (.settled now))).viewport.followTail =
      viewer.viewport.isAtBottom viewer.count := by
  have looked : viewer.viewport.settle viewer.count now =
      { viewer.viewport with
        settleAt := none
        followTail := viewer.viewport.isAtBottom viewer.count } := by
    rw [Viewport.settle, armed]
    exact if_pos reached
  rw [after, fed, settle, looked]

/-- A scroll sets the time to look at and drops a pending reveal. Leaving the bottom ends the following
at once. -/
theorem scroll_lands (undistracted : viewer.Undistracted) {scroll : Operation α} {time : Nat}
    (scrolls : scroll.scrolledAt? = some time) :
    (viewer.after scroll).viewport.settleAt = some (time + viewer.viewport.layout.scrollSettle) ∧
      (viewer.after scroll).revealPending = false ∧
        ((viewer.after scroll).viewport.followTail = true →
          (viewer.after scroll).viewport.isAtBottom (viewer.after scroll).count = true) := by
  cases (after_turn undistracted scroll).watch with
  | set now scrollsAt armed idle bottom =>
    obtain rfl : now = time := Option.some.inj (scrollsAt.symm.trans scrolls)
    exact ⟨armed, idle, bottom⟩
  | dropped unscrolled gone called => simp [unscrolled] at scrolls
  | kept unscrolled same undisturbed => simp [unscrolled] at scrolls

/-! ### Since the latest scroll -/

/-- A scroll that is still to be looked at is the latest one of the run. -/
theorem armed_by_latest_scroll (undistracted : viewer.Undistracted)
    (unarmed : viewer.viewport.settleAt = none) {operations : List (Operation α)} {due : Nat}
    (armed : (viewer.run operations).viewport.settleAt = some due) :
    ∃ before scroll time since, LatestScroll operations before scroll time since ∧
      due = time + viewer.viewport.layout.scrollSettle := by
  -- From the end of the run back: what did not keep the time set it, and was a scroll.
  induction operations using List.reverseRecOn with
  | nil => simp [run, unarmed] at armed
  | append_singleton operations operation ih =>
    obtain ⟨undistractedThen, layout⟩ := run_undistracted undistracted operations
    rw [run_concat] at armed
    cases (after_turn undistractedThen operation).watch with
    | set now scrolls time idle bottom =>
      refine ⟨operations, operation, now, [], ⟨rfl, scrolls, by simp⟩, ?_⟩
      rw [← layout]
      exact Option.some.inj (armed.symm.trans time)
    | dropped unscrolled gone called => simp [gone] at armed
    | kept unscrolled same undisturbed =>
      obtain ⟨before, scroll, time, since, latest, dueThen⟩ := ih (same.symm.trans armed)
      refine ⟨before, scroll, time, since ++ [operation], ⟨?_, latest.scrolls, ?_⟩, dueThen⟩
      · rw [latest.parts, List.append_assoc, List.cons_append]
      · intro later member
        rcases List.mem_append.mp member with earlier | last
        · exact latest.unscrolled later earlier
        · rwa [List.mem_singleton.mp last]

/-- As long as a scroll is still to be looked at, a viewer is disturbed only by what displaces it. -/
theorem undisturbed_since (undistracted : viewer.Undistracted) (idle : viewer.revealPending = false)
    {operations : List (Operation α)} {due : Nat}
    (unscrolled : ∀ operation ∈ operations, operation.scrolledAt? = none)
    (undisplaced : viewer.Undisplaced operations)
    (armed : (viewer.run operations).viewport.settleAt = some due) :
    Undisturbed viewer (viewer.run operations) := by
  induction operations using List.reverseRecOn with
  | nil => exact ⟨idle, rfl, fun _ _ => rfl, fun _ => Nat.le_refl _⟩
  | append_singleton operations operation ih =>
    obtain ⟨undistractedThen, -⟩ := run_undistracted undistracted operations
    have calm : viewer.Undisplaced operations := by
      intro earlier other rest parts
      refine undisplaced earlier other (rest ++ [operation]) ?_
      rw [parts, List.append_assoc, List.cons_append]
    rw [run_concat] at armed ⊢
    cases (after_turn undistractedThen operation).watch with
    | set now scrolls time idle bottom =>
      have never : operation.scrolledAt? = none := unscrolled operation (by simp)
      simp [never] at scrolls
    | dropped _ gone called => simp [gone] at armed
    | kept _ same undisturbed =>
      have first : Undisturbed viewer (viewer.run operations) := by
        refine ih ?_ calm (same.symm.trans armed)
        intro other member
        exact unscrolled other (List.mem_append_left _ member)
      exact first.trans (undisturbed (undisplaced operations operation [] rfl) first.idle)

/-- What arrives keeps the time to look at, and disturbs nothing. -/
theorem undisturbed_by_arrivals (undistracted : viewer.Undistracted)
    (idle : viewer.revealPending = false) {due : Nat}
    (armed : viewer.viewport.settleAt = some due) {arrivals : List (Operation α)}
    (arrive : ∀ operation ∈ arrivals, operation.Arrives due) :
    (viewer.run arrivals).viewport.settleAt = some due ∧
      Undisturbed viewer (viewer.run arrivals) := by
  induction arrivals using List.reverseRecOn with
  | nil => exact ⟨armed, idle, rfl, fun _ _ => rfl, fun _ => Nat.le_refl _⟩
  | append_singleton arrivals arrival ih =>
    have arrives : arrival.Arrives due := arrive arrival (by simp)
    obtain ⟨unscrolled, undisplaced⟩ := undisplaced_of_arrives arrives
    obtain ⟨armedThen, first⟩ := ih fun other member => arrive other (List.mem_append_left _ member)
    obtain ⟨undistractedThen, -⟩ := run_undistracted undistracted arrivals
    rw [run_concat]
    cases (after_turn undistractedThen arrival).watch with
    | set now scrolls time idle bottom => simp [unscrolled] at scrolls
    | dropped _ gone called => exact absurd arrives (called due armedThen)
    | kept _ same undisturbed =>
      exact ⟨same.trans armedThen, first.trans (undisturbed (undisplaced _) first.idle)⟩

/-! ### Whether a settled scroll resumes the following -/

/-- Whatever was done to a viewer, let its user scroll, and let nothing but events and records come until
the look at the settled scroll. If the scroll ended the following of the end, or had nothing to end, the
look resumes it exactly if the offset it landed on has the bottom of the grown list in sight. If the end
is still followed, it goes on being followed. -/
theorem settled_scroll_resumes_iff (layout : Layout Rat) (job : String) (showDebug : Bool)
    (operations arrivals : List (Operation Rat)) (scroll : Operation Rat) (time now : Nat)
    (scrolls : scroll.scrolledAt? = some time)
    (arrive : ∀ arrival ∈ arrivals, arrival.Arrives (time + layout.scrollSettle))
    (reached : time + layout.scrollSettle ≤ now) :
    let landed := (new job layout showDebug).run (operations ++ [scroll])
    let later := landed.run arrivals
    let looked := later.after (.input (.settled now))
    (landed.viewport.followTail = false →
        (looked.viewport.followTail = true ↔ landed.viewport.isAtBottom later.count = true)) ∧
      (landed.viewport.followTail = true → 0 ≤ layout.bottomTolerance →
        looked.viewport.followTail = true) := by
  intro landed later looked
  obtain ⟨undistracted, same⟩ := run_steady job layout showDebug operations
  obtain ⟨armed, idle, -⟩ := scroll_lands undistracted scrolls
  rw [same, ← run_concat] at armed
  rw [← run_concat] at idle
  have landedUndistracted : landed.Undistracted :=
    (run_steady job layout showDebug (operations ++ [scroll])).1
  obtain ⟨armedStill, undisturbed⟩ := undisturbed_by_arrivals landedUndistracted idle armed arrive
  have decided : looked.viewport.followTail = later.viewport.isAtBottom later.count :=
    settled_following armedStill reached
  rw [decided]
  constructor
  · intro unfollowed
    have seen := undisturbed.sight unfollowed later.count
    rw [seen]
  · intro followed tolerant
    have sight : later.HasEndInSight := by
      have reachable :=
        run_end_in_sight layout tolerant job showDebug (operations ++ [scroll] ++ arrivals)
      rwa [run_append] at reachable
    exact sight (undisturbed.following.trans followed)

/-- Five of ten rows fit. A record that is not shown and an early look leave the user who is back at the
bottom to follow it again. -/
theorem landing_kept_by_hidden_record :
    let layout : Layout Rat := ⟨20, 2, 10, 100⟩
    let records := (List.range 10).map fun n => (⟨"", "", .info, n.toUInt64⟩ : Record)
    let operations : List (Operation Rat) :=
      [.input (.action (.resize 100)), .append records, .input (.action (.scrollByRows (-1) 0))]
    let scroll : Operation Rat := .input (.action (.scrollByRows 1 50))
    let arrivals : List (Operation Rat) :=
      [.input (.event .opened), .append [⟨"", "", .debug, 10⟩], .input (.settled 100)]
    let landed := (new "job" layout false).run (operations ++ [scroll])
    scroll.scrolledAt? = some 50 ∧ (∀ arrival ∈ arrivals, arrival.Arrives 150) ∧
      landed.viewport.followTail = false ∧
        ((landed.run arrivals).after (.input (.settled 150))).viewport.followTail = true := by
  intro layout records operations scroll arrivals landed
  have arrive : ∀ arrival ∈ arrivals, arrival.Arrives 150 := by
    simp [arrivals, Operation.Arrives]
  have unfollowed : landed.viewport.followTail = false := by decide +kernel
  have bottom : landed.viewport.isAtBottom (landed.run arrivals).count = true := by decide +kernel
  obtain ⟨resumes, -⟩ :=
    settled_scroll_resumes_iff layout "job" false operations arrivals scroll 50 150 rfl arrive le_rfl
  exact ⟨rfl, arrive, unfollowed, (resumes unfollowed).mpr bottom⟩

/-- Five of eleven rows fit. The user is back at the bottom of ten when the eleventh arrives. -/
theorem landing_outrun_by_one_record :
    let layout : Layout Rat := ⟨20, 2, 10, 100⟩
    let records := (List.range 10).map fun n => (⟨"", "", .info, n.toUInt64⟩ : Record)
    let landed := (new "job" layout false).run
      [.input (.action (.resize 100)), .append records, .input (.action (.scrollByRows (-1) 0)),
        .input (.action (.scrollByRows 1 50))]
    let later := landed.run [.append [⟨"", "", .info, 10⟩]]
    landed.viewport.isAtBottom landed.count = true ∧
      (later.after (.input (.settled 150))).viewport.followTail = false := by
  decide +kernel

/-- In every run from a new viewer, an operation that makes a viewer follow the end that did not turns the
following over, shows or hides verbose records, or looks at a scroll that has settled. The scroll looked
at is the latest of the run, its time to settle has passed, and the bottom is in sight at the look. It had
landed on the bottom of the list as it was then, unless something displaced the view since: another
height, another text, a line opened, or a move of the selection. -/
theorem following_resumes_only_by (layout : Layout Rat) (job : String) (showDebug : Bool)
    (operations : List (Operation Rat)) (operation : Operation Rat)
    (off : ((new job layout showDebug).run operations).viewport.followTail = false)
    (on : ((new job layout showDebug).run (operations ++ [operation])).viewport.followTail = true) :
    operation = .input (.action .toggleFollowTail) ∨
      (∃ shows, operation = .input (.action (.setShowDebug shows))) ∨
        ∃ now before scroll time since, operation = .input (.settled now) ∧
          LatestScroll operations before scroll time since ∧ time + layout.scrollSettle ≤ now ∧
            ((new job layout showDebug).run operations).viewport.isAtBottom
              ((new job layout showDebug).run operations).count = true ∧
            let landed := (new job layout showDebug).run (before ++ [scroll])
            (0 ≤ layout.rowHeight → landed.Undisplaced since →
              landed.viewport.isAtBottom landed.count = true) := by
  obtain ⟨undistracted, same⟩ := run_steady job layout showDebug operations
  rw [run_concat] at on
  cases (after_turn undistracted operation).follows on with
  | still before unrenewed sight idle => simp [off] at before
  | brought offset cause alone =>
    rcases cause with before | turned | shown
    · simp [off] at before
    · exact .inl turned
    · exact .inr (.inl shown)
  | scrolled now scrolls before bottom alone => simp [off] at before
  | settled due now cause armed reached bottom sight alone =>
    obtain ⟨before, scroll, time, since, latest, rfl⟩ :=
      armed_by_latest_scroll (new_undistracted job layout showDebug) rfl armed
    refine .inr (.inr ⟨now, before, scroll, time, since, cause, latest, reached, bottom, ?_⟩)
    intro landed flat undisplaced
    have parts : (new job layout showDebug).run operations = landed.run since := by
      rw [latest.parts, List.append_cons, run_append]
    obtain ⟨landedUndistracted, landedSame⟩ := run_steady job layout showDebug (before ++ [scroll])
    obtain ⟨-, idle, followed⟩ :=
      scroll_lands (run_steady job layout showDebug before).1 latest.scrolls
    rw [← run_concat] at idle followed
    cases following : landed.viewport.followTail with
    | true => exact followed following
    | false =>
      -- The view rested from the landing to the look, and the list has only grown.
      rw [parts] at armed bottom
      have undisturbed :=
        undisturbed_since landedUndistracted idle latest.unscrolled undisplaced armed
      rw [undisturbed.sight following] at bottom
      refine Viewport.at_bottom_of_fewer ?_ (undisturbed.longer following) bottom
      rw [landedSame]
      exact flat

/-- The user leaves the bottom of ten rows and returns: the look at the settled scroll is what lets the
viewer follow again, and the scroll it looks at is due. -/
theorem return_resumes_following :
    let layout : Layout Rat := ⟨20, 2, 10, 100⟩
    let records := (List.range 10).map fun n => (⟨"", "", .info, n.toUInt64⟩ : Record)
    let operations : List (Operation Rat) :=
      [.input (.action (.resize 100)), .append records, .input (.action (.scrollByRows (-1) 0)),
        .input (.action (.scrollByRows 1 50))]
    ((new "job" layout false).run operations).viewport.followTail = false ∧
      ((new "job" layout false).run (operations ++ [.input (.settled 150)])).viewport.followTail = true ∧
        ∃ before scroll time since, LatestScroll operations before scroll time since ∧ time + 100 ≤ 150 := by
  intro layout records operations
  have off : ((new "job" layout false).run operations).viewport.followTail = false := by
    decide +kernel
  have on : ((new "job" layout false).run
      (operations ++ [.input (.settled 150)])).viewport.followTail = true := by
    decide +kernel
  refine ⟨off, on, ?_⟩
  rcases following_resumes_only_by layout "job" false operations _ off on with
    turned | ⟨shows, shown⟩ | ⟨now, before, scroll, time, since, looked, latest, due, -⟩
  · exact nomatch turned
  · exact nomatch shown
  · obtain rfl : 150 = now := by injection looked with settled; injection settled
    exact ⟨before, scroll, time, since, latest, due⟩

/-- A line is opened after a scroll on a list that fits. The look at the scroll follows the end again. -/
theorem opened_line_given_up :
    let layout : Layout Rat := ⟨20, 2, 10, 100⟩
    let opened := (new "job" layout false).run
      [.input (.action (.resize 100)), .append [⟨"", "", .info, 1⟩],
        .input (.action (.scrollByRows (-1) 0)), .input (.action (.openAt 50))]
    opened.viewport.followTail = false ∧ opened.revealPending = true ∧
      (opened.after (.input (.settled 100))).viewport.followTail = true ∧
        (opened.after (.input (.settled 100))).revealPending = false := by
  decide +kernel

end LiveLog.Viewer
