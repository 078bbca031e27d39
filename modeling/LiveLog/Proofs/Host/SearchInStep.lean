import LiveLog.Proofs.Host.Inputs
import LiveLog.Proofs.SearchBox.Editing
import LiveLog.Proofs.Viewer.Contents

/-! The search box keeps in step with the viewer in focus. The text searched for lives in both: a key typed
into the box is passed on to the viewer, a change of the focus copies the text of the viewer into the box,
and a viewer that is opened anew searches for nothing, as the box then does. A box may keep its text after
its viewer was closed. Jobs may repeat, so that two places in the list share a viewer. -/
namespace LiveLog

/-! ### The texts searched for -/

namespace Coordinator

variable {α : Type}

/-- The text an open viewer is searched for. -/
def searchText? (coordinator : Coordinator α) (id : InstanceId) : Option String :=
  (coordinator.viewer? id).map (·.buffer.filter.text)

theorem isOpen_eq_searchText? (coordinator : Coordinator α) (id : InstanceId) :
    coordinator.isOpen id = (coordinator.searchText? id).isSome := by
  rw [isOpen, searchText?, viewer?, Option.isSome_map, Option.isSome_map]

variable [Scalar α]

theorem searchText?_act (coordinator : Coordinator α) (id other : InstanceId)
    (action : Viewer.Action α) :
    (coordinator.act id action).1.searchText? other =
      if other = id then
        (coordinator.searchText? id).map fun text =>
          (Viewer.Operation.text? (.input (.action action))).getD text
      else coordinator.searchText? other := by
  rw [searchText?, viewer?_act]
  split
  · rw [searchText?, Option.map_map, Option.map_map]
    exact Option.map_congr fun viewer _ => viewer.after_text (.input (.action action))
  · rfl

/-- Only an action that searches changes what is searched for. -/
theorem searchText?_kept (coordinator : Coordinator α) (id other : InstanceId)
    {action : Viewer.Action α} (none_ : Viewer.Operation.text? (.input (.action action)) = none) :
    (coordinator.act id action).1.searchText? other = coordinator.searchText? other := by
  rw [searchText?_act, none_]
  split
  · rename_i same
    rw [same]
    exact Option.map_id'
  · rfl

theorem searchText?_pump (coordinator : Coordinator α) (now : Nat) (id : InstanceId) :
    (coordinator.pump now).1.searchText? id = coordinator.searchText? id := by
  obtain ⟨sent, pumped⟩ := coordinator.viewer?_pump now id
  rw [searchText?, pumped, Option.map_map]
  refine Option.map_congr fun viewer _ => ?_
  refine received_keeps (fun later => later.buffer.filter.text = viewer.buffer.filter.text)
    (fun later event same => ?_) rfl sent
  exact (later.after_text (.input (.event event))).trans same

theorem searchText?_close (coordinator : Coordinator α) (id : InstanceId) (now : Nat) :
    (coordinator.close id now).1.searchText? id = none := by
  rw [searchText?, viewer?_close, if_pos rfl]
  rfl

theorem searchText?_openViewer (coordinator : Coordinator α) (job url : String) (now : Nat)
    (other : InstanceId) :
    (coordinator.openViewer job url now).1.searchText? other =
      if other = .ofJob job then some "" else coordinator.searchText? other := by
  rw [searchText?, viewer?_openViewer]
  split <;> rfl

end Coordinator

/-! ### The box and the viewer in focus -/

namespace Host

variable {α : Type}

/-- The text the viewer in focus is searched for, if it is open. -/
def focusedText? (host : Host α) : Option String :=
  host.coordinator.searchText? host.focusedId

/-- The focus is on a job, the box holds what the viewer in focus is searched for, the box is edited only
while that viewer is open, and the cursor is in the text. -/
structure SearchInStep (host : Host α) : Prop where
  focus_valid : host.focused < host.jobs.length
  text_shared : ∀ viewer, host.focusedViewer? = some viewer →
    host.search.text = viewer.buffer.filter.text
  edited_open : host.mode = .search → host.coordinator.isOpen host.focusedId = true
  cursor_within : host.search.Within

variable {host later : Host α}

theorem SearchInStep.of_text (focus : host.focused < host.jobs.length)
    (shared : ∀ text, host.focusedText? = some text → host.search.text = text)
    (edited : host.mode = .search → host.focusedText?.isSome) (within : host.search.Within) :
    host.SearchInStep where
  focus_valid := focus
  text_shared viewer open_ := shared _ (Option.map_eq_some_iff.mpr ⟨viewer, open_, rfl⟩)
  edited_open editing := (Coordinator.isOpen_eq_searchText? _ _).trans (edited editing)
  cursor_within := within

theorem SearchInStep.shared (inStep : host.SearchInStep) (text : String)
    (found : host.focusedText? = some text) : host.search.text = text := by
  obtain ⟨viewer, open_, rfl⟩ := Option.map_eq_some_iff.mp found
  exact inStep.text_shared viewer open_

theorem SearchInStep.edited (inStep : host.SearchInStep) (editing : host.mode = .search) :
    host.focusedText?.isSome :=
  (Coordinator.isOpen_eq_searchText? _ _).symm.trans (inStep.edited_open editing)

/-- What changes neither the focus nor the box nor what is searched for keeps them in step. -/
theorem SearchInStep.kept (inStep : host.SearchInStep) (jobs : later.jobs = host.jobs)
    (focused : later.focused = host.focused) (mode : later.mode = host.mode)
    (search : later.search = host.search) (text : later.focusedText? = host.focusedText?) :
    later.SearchInStep := by
  apply SearchInStep.of_text
  · rw [focused, jobs]
    exact inStep.focus_valid
  · rw [text, search]
    exact inStep.shared
  · rw [mode, text]
    exact inStep.edited
  · rw [search]
    exact inStep.cursor_within

theorem SearchInStep.told (inStep : host.SearchInStep) (message : Option String) :
    (host.told message).SearchInStep :=
  inStep.kept rfl rfl rfl rfl rfl

/-- The job the focus comes to hands its text to the box. -/
theorem SearchInStep.switched (inStep : host.SearchInStep) (normal : host.mode = .normal) :
    host.focusNext.SearchInStep := by
  have some_ : 0 < host.jobs.length := Nat.zero_lt_of_lt inStep.focus_valid
  have filled : host.jobs.isEmpty = false :=
    List.isEmpty_eq_false_iff.mpr (List.ne_nil_of_length_pos some_)
  rw [focusNext, filled]
  refine ⟨Nat.mod_lt _ some_, ?shared, ?edited, SearchBox.ofText_within _⟩
  case shared =>
    intro viewer open_
    exact congrArg (Option.elim · "" (·.buffer.filter.text)) open_
  case edited => exact fun editing => absurd (normal.symm.trans editing) (by decide)

variable [Scalar α] {input : Input}

theorem Passes.text? {action : Viewer.Action α} (passes : Passes host input action) :
    Viewer.Operation.text? (.input (.action action)) = none := by
  cases passes <;> rfl

/-! ### One turn -/

theorem SearchInStep.passing (inStep : host.SearchInStep) {action : Viewer.Action α}
    (none_ : Viewer.Operation.text? (.input (.action action)) = none) :
    (host.passing action).SearchInStep :=
  inStep.kept rfl rfl rfl rfl (host.coordinator.searchText?_kept host.focusedId host.focusedId none_)

theorem SearchInStep.sized (inStep : host.SearchInStep) (panes : List Pane) :
    (panes.foldl Host.sized host).SearchInStep := by
  induction panes generalizing host with
  | nil => exact inStep
  | cons pane panes ih =>
    refine ih (inStep.kept rfl rfl rfl rfl ?_)
    exact host.coordinator.searchText?_kept (host.shownId pane) host.focusedId rfl

/-- A text typed into the box reaches the viewer in focus, which is open. -/
theorem SearchInStep.searched (inStep : host.SearchInStep) (editing : host.mode = .search)
    {box : SearchBox} (within : box.Within) :
    { host.passing (.setSearch box.text) with search := box }.SearchInStep := by
  have reached : { host.passing (.setSearch box.text) with search := box }.focusedText? =
      host.focusedText?.map fun _ => box.text := by
    refine (host.coordinator.searchText?_act host.focusedId host.focusedId _).trans ?_
    rw [if_pos rfl]
    rfl
  refine .of_text inStep.focus_valid ?shared ?edited within
  case shared =>
    intro text found
    rw [reached] at found
    obtain ⟨_, -, rfl⟩ := Option.map_eq_some_iff.mp found
    rfl
  case edited =>
    intro _
    rw [reached, Option.isSome_map]
    exact inStep.edited editing

/-- A viewer that is closed has no text, and one that is opened has the empty one. -/
theorem SearchInStep.toggled (inStep : host.SearchInStep) (normal : host.mode = .normal)
    (now : Nat) : (host.toggleFocused now).SearchInStep := by
  have unedited {holds : Prop} (editing : host.mode = .search) : holds :=
    absurd (normal.symm.trans editing) (by decide)
  rcases host.toggleFocused_cases now with ⟨message, toggled⟩ | ⟨message, toggled⟩
  · rw [toggled]
    refine .of_text inStep.focus_valid ?_ unedited inStep.cursor_within
    intro text found
    cases (host.coordinator.searchText?_close host.focusedId now).symm.trans found
  · have opened := host.coordinator.searchText?_openViewer host.focusedJob.job host.focusedJob.url now
      (.ofJob host.focusedJob.job)
    rw [if_pos rfl] at opened
    rw [toggled]
    refine .of_text inStep.focus_valid ?_ unedited (SearchBox.ofText_within _)
    intro text found
    cases opened.symm.trans found
    rfl

theorem Turn.searchInStep (turn : Turn host input later) (inStep : host.SearchInStep) :
    later.SearchInStep := by
  cases turn with
  | idle same =>
    rw [same]
    exact inStep.told _
  | passed action passes same =>
    rw [same]
    exact (inStep.passing passes.text?).told _
  | searched key box editing typed same =>
    have within : box.Within := by
      have pressed := SearchBox.press_within inStep.cursor_within key
      rwa [typed] at pressed
    rw [same]
    exact (inStep.searched editing within).told _
  | moved key box edit mode kept editing typed same =>
    have within : box.Within := by
      have pressed := SearchBox.press_within inStep.cursor_within key
      rwa [typed] at pressed
    rw [same]
    refine ⟨inStep.focus_valid, ?_, fun _ => inStep.edited_open editing, within⟩
    intro viewer open_
    exact (SearchBox.press_keeps_text inStep.cursor_within typed kept).trans
      (inStep.text_shared viewer open_)
  | switched normal same =>
    rw [same]
    exact (inStep.switched normal).told _
  | toggled now normal same =>
    rw [same]
    exact (inStep.toggled normal now).told _
  | searching open_ same =>
    rw [same]
    exact ⟨inStep.focus_valid, inStep.text_shared, fun _ => open_, inStep.cursor_within⟩
  | ticked now same =>
    rw [same]
    exact inStep.kept rfl rfl rfl rfl (host.coordinator.searchText?_pump now host.focusedId)
  | drawn width height same =>
    rw [same]
    exact inStep.sized _
  | streamed connections same =>
    rw [same]
    exact inStep.kept rfl rfl rfl rfl rfl

/-! ### Every run -/

/-- Opening jobs leaves their viewers without a text. -/
private theorem opened_texts (jobs : List JobSpec) (now : Nat) (coordinator : Coordinator α)
    {id : InstanceId}
    (opens : coordinator.searchText? id = some "" ∨ ∃ job ∈ jobs, id = .ofJob job.job) :
    (coordinator.opened jobs now).searchText? id = some "" := by
  induction jobs generalizing coordinator with
  | nil => exact opens.resolve_right (by simp)
  | cons job jobs ih =>
    refine ih (coordinator.openViewer job.job job.url now).1 ?_
    rw [Coordinator.searchText?_openViewer]
    by_cases same : id = .ofJob job.job
    · exact .inl (if_pos same)
    · rw [if_neg same]
      simpa [same] using opens

theorem Fresh.searchInStep {coordinator : Coordinator α} {jobs : List JobSpec} {rowHeight : α}
    {now : Nat} (fresh : Fresh coordinator jobs rowHeight now host) (some_ : jobs ≠ []) :
    host.SearchInStep := by
  have focus := fresh.focus_valid some_
  have listed := fresh.jobs_listed
  have present : host.focusedJob ∈ jobs := by
    rw [focusedJob, listed, List.getElem?_eq_getElem focus, Option.getD_some]
    exact List.getElem_mem focus
  have text : host.focusedText? = some "" := by
    rw [focusedText?, fresh.all_opened]
    exact opened_texts jobs now coordinator (.inr ⟨_, present, rfl⟩)
  refine .of_text (by rwa [listed]) ?_ (fun editing => ?_) ?_
  · intro other found
    cases text.symm.trans found
    rw [fresh.search_empty]
    rfl
  · exact absurd (fresh.mode_normal.symm.trans editing) (by decide)
  · rw [fresh.search_empty]
    exact Nat.le_refl _

/-- A host starts in step, wherever its link leads. -/
theorem new_searchInStep (coordinator : Coordinator α) (jobs : List JobSpec) (some_ : jobs ≠ [])
    (rowHeight : α) (link : Option DeepLink) (now : Nat) :
    (new coordinator jobs rowHeight link now).SearchInStep := by
  obtain ⟨host, fresh, same | ⟨line, same⟩⟩ := new_cases coordinator jobs rowHeight link now
  · rw [same]
    exact fresh.searchInStep some_
  · rw [same]
    exact (fresh.searchInStep some_).passing rfl

theorem run_searchInStep (inStep : host.SearchInStep) (inputs : List Input) :
    (host.run inputs).SearchInStep := by
  induction inputs generalizing host with
  | nil => exact inStep
  | cons input inputs ih => exact ih ((host.after_turn input).searchInStep inStep)

/-- Whatever comes to a host with jobs, however often a job is in their list and wherever the link leads:
the focus is on one of the jobs; if the viewer in focus is open, the search box holds the text it is
searched for; the box is edited only while that viewer is open; and the cursor is in the text. -/
theorem search_box_keeps_in_step (coordinator : Coordinator α) (jobs : List JobSpec)
    (some_ : jobs ≠ []) (rowHeight : α) (link : Option DeepLink) (now : Nat) (inputs : List Input) :
    let host := (new coordinator jobs rowHeight link now).run inputs
    host.jobs = jobs ∧ host.SearchInStep :=
  ⟨congrArg Prod.fst (run_setup coordinator jobs rowHeight link now inputs),
    run_searchInStep (new_searchInStep coordinator jobs some_ rowHeight link now) inputs⟩

/-- A job stands twice in the list. What is typed at its first place, with a correction in the middle of
the text, is in the box again when the focus comes to its second place; closed there, it is searched for
nothing when it is opened at its first place and its search is edited. -/
theorem repeated_job_keeps_in_step :
    let jobs : List JobSpec := [⟨"build", "b"⟩, ⟨"tests", "t"⟩, ⟨"build", "b"⟩]
    let start := new (.new (.standard : Config Rat)) jobs 20 (some ⟨"build", some 3⟩) 0
    let typed : List Input :=
      [.key (.char '/') false 1, .key (.char 'b') false 2, .key (.char 'a') false 3,
        .key .left false 4, .key .backspace false 5, .draw 9 7, .key .enter false 6,
        .key .tab false 7, .key .tab false 8]
    let inputs := typed ++
      [.key (.char 'x') false 9, .tick 10, .key .tab false 11, .key (.char 'x') false 12,
        .key (.char '/') false 13]
    let host := start.run inputs
    (start.run typed).focused = 2 ∧ (start.run typed).search = ⟨"a", 1⟩ ∧
      jobs ≠ [] ∧ host.search = ⟨"", 0⟩ ∧ host.mode = .search ∧
      host.jobs = jobs ∧ host.SearchInStep := by
  intro jobs start typed inputs host
  have some_ : jobs ≠ [] := List.cons_ne_nil _ _
  exact ⟨by decide +kernel, by decide +kernel, some_, by decide +kernel, by decide +kernel,
    search_box_keeps_in_step _ jobs some_ 20 _ 0 inputs⟩

end Host

end LiveLog
