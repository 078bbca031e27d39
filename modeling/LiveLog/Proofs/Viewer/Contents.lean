import LiveLog.Proofs.Viewer.Operations

/-! What a viewer shows is decided by the records it was brought and by the last settings of its filter:
the text searched for last, and whether verbose records were shown or hidden last. Nothing else that was
done to it matters, nor does the order in which records and settings came. -/
namespace LiveLog.Viewer

variable {α : Type}

/-! ### What operations bring and set -/

/-- The records an operation brings. -/
def Operation.records : Operation α → List Record
  | .input (.event event) => event.records
  | .append records => records
  | _ => []

/-- The text an operation searches for. -/
def Operation.text? : Operation α → Option String
  | .input (.action (.setSearch text)) => some text
  | _ => none

/-- Whether an operation shows verbose records or hides them. -/
def Operation.verbose? : Operation α → Option Bool
  | .input (.action (.setShowDebug showDebug)) => some showDebug
  | _ => none

/-- All records brought, in the order of their coming. -/
def recordsOf (operations : List (Operation α)) : List Record :=
  operations.flatMap Operation.records

/-- The text searched for last. -/
def textOf (operations : List (Operation α)) : String :=
  (operations.filterMap Operation.text?).getLast?.getD ""

/-- Whether verbose records are shown, by what was set last or else from the start. -/
def verboseOf (showDebug : Bool) (operations : List (Operation α)) : Bool :=
  (operations.filterMap Operation.verbose?).getLast?.getD showDebug

/-- The last of some settings is the one an operation at the end makes, if it makes one. -/
private theorem last_setting {β : Type} (setting? : Operation α → Option β) (start : β)
    (operations : List (Operation α)) (operation : Operation α) :
    ((operations ++ [operation]).filterMap setting?).getLast?.getD start =
      (setting? operation).getD ((operations.filterMap setting?).getLast?.getD start) := by
  rw [List.filterMap_append]
  cases setting : setting? operation <;> simp [setting]

/-! ### One operation -/

variable [Scalar α] {viewer : Viewer α}

theorem after_records (viewer : Viewer α) (operation : Operation α) :
    (viewer.after operation).buffer.records.toList =
      viewer.buffer.records.toList ++ operation.records := by
  cases operation with
  | append records =>
    rw [after, append_buffer]
    exact (Buffer.append_keeps _ _).1
  | scrollToTop now => exact (List.append_nil _).symm
  | input input =>
    rw [after, fed_records]
    cases input <;> simp [brought, Input.event?, Operation.records]

section
variable {text : String} {verbose : Bool}

/-- Searching makes the filter anew, unless the text is the same. -/
theorem setSearch_filter (made : viewer.buffer.filter = Filter.new text verbose) (other : String) :
    (viewer.setSearch other).buffer.filter = Filter.new other verbose := by
  by_cases same : viewer.buffer.filter.text = other
  · have unchanged : viewer.setSearch other = viewer := if_pos same
    rw [made] at same
    rw [unchanged, made, ← same]
    rfl
  · have anew : (viewer.setSearch other).buffer.filter = viewer.buffer.filter.withText other := by
      rw [viewer.setSearch_eq same]
      split
      · rw [revealSelected_buffer]
        rfl
      · rfl
    rw [anew, made]
    rfl

/-- Showing other levels keeps what was made for the text, which is what would be made again. -/
theorem setShowDebug_filter (made : viewer.buffer.filter = Filter.new text verbose) (other : Bool) :
    (viewer.setShowDebug other).buffer.filter = Filter.new text other := by
  by_cases same : viewer.buffer.filter.showVerbose = other
  · have unchanged : viewer.setShowDebug other = viewer := if_pos same
    rw [made] at same
    rw [unchanged, made, ← same]
    rfl
  · rw [setShowDebug, if_neg same]
    exact congrArg (Filter.withVerbose · other) made

theorem after_filter (made : viewer.buffer.filter = Filter.new text verbose)
    (operation : Operation α) :
    (viewer.after operation).buffer.filter =
      Filter.new (operation.text?.getD text) (operation.verbose?.getD verbose) := by
  cases operation with
  | append records =>
    rw [after, append_buffer]
    exact (Buffer.append_keeps _ _).2.trans made
  | scrollToTop now => exact made
  | input input =>
    cases input with
    | event event =>
      rw [after, fed, apply_buffer]
      exact (Buffer.append_keeps _ _).2.trans made
    | settled now => exact made
    | action action =>
      cases action with
      | setSearch other => exact setSearch_filter made other
      | setShowDebug other => exact setShowDebug_filter made other
      | moveSelection steps =>
        rw [after, fed, acted, moveSelection_buffer]
        exact made
      | openAt line =>
        rw [after, fed, acted, openAt, revealSelected_buffer]
        exact made
      | _ => exact made

end

/-- The text searched for is the one given last, however the filter was made. -/
theorem after_text (viewer : Viewer α) (operation : Operation α) :
    (viewer.after operation).buffer.filter.text =
      operation.text?.getD viewer.buffer.filter.text := by
  cases operation with
  | append records =>
    rw [after, append_buffer, (Buffer.append_keeps _ _).2]
    rfl
  | scrollToTop now => rfl
  | input input =>
    cases input with
    | event event =>
      rw [after, fed, apply_buffer, (Buffer.append_keeps _ _).2]
      rfl
    | settled now => rfl
    | action action =>
      cases action with
      | setSearch other =>
        by_cases same : viewer.buffer.filter.text = other
        · have unchanged : viewer.setSearch other = viewer := if_pos same
          exact (congrArg (·.buffer.filter.text) unchanged).trans same
        · rw [after, fed, acted, viewer.setSearch_eq same]
          split
          · rw [revealSelected_buffer]
            rfl
          · rfl
      | setShowDebug other =>
        rw [after, fed, acted, setShowDebug]
        split <;> rfl
      | moveSelection steps =>
        rw [after, fed, acted, moveSelection_buffer]
        rfl
      | openAt line =>
        rw [after, fed, acted, openAt, revealSelected_buffer]
        rfl
      | _ => rfl

/-! ### Every run -/

theorem run_records (viewer : Viewer α) (operations : List (Operation α)) :
    (viewer.run operations).buffer.records.toList =
      viewer.buffer.records.toList ++ recordsOf operations := by
  induction operations using List.reverseRecOn with
  | nil => exact (List.append_nil _).symm
  | append_singleton operations operation ih =>
    rw [run_concat, after_records, ih, List.append_assoc, recordsOf, recordsOf, List.flatMap_append,
      List.flatMap_singleton]

theorem run_filter (job : String) (layout : Layout α) (showDebug : Bool)
    (operations : List (Operation α)) :
    ((new job layout showDebug).run operations).buffer.filter =
      Filter.new (textOf operations) (verboseOf showDebug operations) := by
  induction operations using List.reverseRecOn with
  | nil => rfl
  | append_singleton operations operation ih =>
    rw [run_concat, after_filter ih]
    exact congrArg₂ Filter.new (last_setting ..).symm (last_setting ..).symm

/-- Whatever was done to a viewer, it answers from all records it was brought, in their order, filtered on
the spot by a filter newly made from the last settings. So two viewers that were brought the same records
and were left with the same settings hold the same and show the same, whatever else was done to them and
in whatever order. -/
theorem shown_by_records_and_settings (layout : Layout α) (job : String) (showDebug : Bool)
    (operations : List (Operation α)) :
    let viewer := (new job layout showDebug).run operations
    viewer.buffer.AnswersFrom (recordsOf operations)
        (Filter.new (textOf operations) (verboseOf showDebug operations)) ∧
      ∀ (otherLayout : Layout α) (otherJob : String) (otherShowDebug : Bool)
        (others : List (Operation α)),
        recordsOf others = recordsOf operations → textOf others = textOf operations →
          verboseOf otherShowDebug others = verboseOf showDebug operations →
            ((new otherJob otherLayout otherShowDebug).run others).buffer = viewer.buffer := by
  intro viewer
  have started (job : String) (layout : Layout α) (showDebug : Bool) :
      (new job layout showDebug).buffer.Exact := rfl
  constructor
  · have answers := Buffer.exact_answers (run_exact (started job layout showDebug) operations)
    rw [run_records, run_filter] at answers
    exact answers
  · intro otherLayout otherJob otherShowDebug others records text verbose
    refine Buffer.eq_of_exact (run_exact (started _ _ _) others) (run_exact (started _ _ _) operations)
      ?_ ?_
    · apply Array.toList_inj.mp
      rw [run_records, run_records, records]
      rfl
    · rw [run_filter, run_filter, text, verbose]

/-- One viewer searches between two records, is scrolled and shows verbose records at the end. The other
shows them from the start, searches for something else, and has both records before it searches for the
same. -/
theorem same_records_same_search :
    let first : Record := ⟨"12:00:00.0", "disk full", .debug, 1⟩
    let second : Record := ⟨"12:00:00.1", "disk spare", .info, 2⟩
    let layout : Layout Rat := ⟨20, 2, 10, 100⟩
    let operations : List (Operation Rat) :=
      [.append [first], .input (.action (.setSearch "disk")), .scrollToTop 5, .append [second],
        .input (.action (.setShowDebug true))]
    let others : List (Operation Rat) :=
      [.input (.action (.setSearch "spare")), .append [first, second], .input (.event .opened),
        .input (.action (.setSearch "disk"))]
    recordsOf others = recordsOf operations ∧ textOf others = textOf operations ∧
      verboseOf true others = verboseOf false operations ∧
        ((new "job" layout true).run others).buffer = ((new "job" layout false).run operations).buffer ∧
          ((new "job" layout false).run operations).buffer.slice 0 9 = [first, second] := by
  intro first second layout operations others
  have records : recordsOf others = recordsOf operations := by decide
  have text : textOf others = textOf operations := by decide
  have verbose : verboseOf true others = verboseOf false operations := by decide
  obtain ⟨-, same⟩ := shown_by_records_and_settings layout "job" false operations
  exact ⟨records, text, verbose, same layout "job" true others records text verbose, by decide +kernel⟩

end LiveLog.Viewer
