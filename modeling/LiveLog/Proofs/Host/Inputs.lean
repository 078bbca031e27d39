import LiveLog.Proofs.Host.Drawing
import Mathlib.Data.List.Induction

/-! All that comes to a host, and the few things it can do in turn. A key reaches the search box or the
viewer in focus, a draw gives every pane its height, a tick pumps, and between any two of these the task
of any connection takes a step. What holds of a host after any run of inputs is proved from these turns;
the message it shows plays no part in them. -/
namespace LiveLog.Host

/-- What comes to a host. -/
inductive Input where
  | tick (now : Nat)
  | key (key : Key) (control : Bool) (now : Nat)
  | wheel (notch : Wheel) (now : Nat)
  | draw (width height : Nat)
  /-- The task of a connection takes a step. -/
  | task (number : Nat) (step : Connection.TaskStep)

variable {α : Type}

/-- The host with another message. -/
def told (host : Host α) (message : Option String) : Host α := { host with message }

theorem focusNext_told (host : Host α) (message : Option String) :
    (host.told message).focusNext = host.focusNext.told message := by
  cases empty : host.jobs.isEmpty with
  | true => simp only [focusNext, told, empty, if_true]
  | false =>
    simp only [focusNext, told, empty, Bool.false_eq_true, if_false]
    rfl

theorem announce_eq (host : Host α) (link : Option DeepLink) :
    host.announce link = host.told (host.announce link).message := by
  unfold announce
  split <;> rfl

variable [Scalar α]

/-- The host after an input. A host that was told to end takes further inputs as any other does. -/
def after (host : Host α) : Input → Host α
  | .tick now => host.tick now
  | .key key control now => (host.press key control now).1
  | .wheel notch now => host.wheel notch now
  | .draw width height => (host.draw width height).1
  | .task number step =>
    let connections := host.coordinator.connections
    { host with
      coordinator := { host.coordinator with
        connections := connections.modify number (·.after connections.settings (.task step)) } }

/-- The host after inputs in their order. -/
def run (host : Host α) (inputs : List Input) : Host α :=
  inputs.foldl after host

theorem run_concat (host : Host α) (inputs : List Input) (input : Input) :
    host.run (inputs ++ [input]) = (host.run inputs).after input :=
  List.foldl_concat _ _ _ _

/-! ### Turns -/

/-- The host with an action passed on to the viewer in focus. -/
def passing (host : Host α) (action : Viewer.Action α) : Host α :=
  { host with coordinator := (host.coordinator.act host.focusedId action).1 }

/-- An input that sends the viewer in focus to its end. -/
def GoesToEnd (host : Host α) : Input → Prop
  | .key key _ _ => host.mode = .normal ∧ (key = .endKey ∨ key = .char 'G')
  | _ => False

instance (host : Host α) (input : Input) : Decidable (host.GoesToEnd input) :=
  match input with
  | .key _ _ _ => inferInstanceAs (Decidable (_ ∧ _))
  | .tick _ | .wheel _ _ | .draw _ _ | .task _ _ => inferInstanceAs (Decidable False)

/-- The actions a key or the wheel passes on to the viewer in focus. To an offset a user goes only at the
top and at the end. -/
inductive Passes (host : Host α) (input : Input) : Viewer.Action α → Prop
  | toggleFollowTail : Passes host input .toggleFollowTail
  | setShowDebug (showDebug : Bool) : Passes host input (.setShowDebug showDebug)
  | selectLine (line : Option UInt64) : Passes host input (.selectLine line)
  | moveSelection (steps : Int) : Passes host input (.moveSelection steps)
  | toggleFullscreen : Passes host input .toggleFullscreen
  | exitFullscreen : Passes host input .exitFullscreen
  | scrollByRows (steps : Int) (now : Nat) : Passes host input (.scrollByRows steps now)
  | toTop (now : Nat) : Passes host input (.scrollTo Scalar.zero now)
  | toEnd (now : Nat) (pressed : host.GoesToEnd input) :
      Passes host input (.scrollTo Scalar.largest now)

/-- What an input makes of a host. -/
inductive Turn (host : Host α) (input : Input) (later : Host α) : Prop
  | idle (same : later = host.told later.message)
  | passed (action : Viewer.Action α) (passes : Passes host input action)
      (same : later = (host.passing action).told later.message)
  | searched (key : Key) (box : SearchBox) (editing : host.mode = .search)
      (typed : host.search.press key = (box, .changed))
      (same : later =
        { host.passing (.setSearch box.text) with search := box, message := later.message })
  | moved (key : Key) (box : SearchBox) (edit : Edit) (mode : InputMode) (kept : edit ≠ .changed)
      (editing : host.mode = .search) (typed : host.search.press key = (box, edit))
      (same : later = { host with search := box, mode, message := later.message })
  | switched (normal : host.mode = .normal) (same : later = host.focusNext.told later.message)
  | toggled (now : Nat) (normal : host.mode = .normal)
      (same : later = (host.toggleFocused now).told later.message)
  | searching (open_ : host.coordinator.isOpen host.focusedId = true)
      (same : later = { host with mode := .search, message := later.message })
  | ticked (now : Nat) (same : later = host.tick now)
  | drawn (width height : Nat) (same : later = (host.panes width height).foldl sized host)
  | streamed (connections : Connections)
      (same : later = { host with coordinator := { host.coordinator with connections } })

variable {host : Host α}

/-- The job in focus is closed, or it is opened and the search box is emptied. -/
theorem toggleFocused_cases (host : Host α) (now : Nat) :
    (∃ message, host.toggleFocused now =
      { host with coordinator := (host.coordinator.close host.focusedId now).1, message }) ∨
      ∃ message, host.toggleFocused now =
        { host with
          coordinator :=
            (host.coordinator.openViewer host.focusedJob.job host.focusedJob.url now).1
          search := SearchBox.ofText ""
          message } := by
  rcases host.coordinator.toggle_cases host.focusedJob.job host.focusedJob.url now with
    ⟨-, toggled⟩ | ⟨-, toggled⟩
  · exact .inl ⟨_, by rw [toggleFocused, toggled]; rfl⟩
  · exact .inr ⟨_, by rw [toggleFocused, toggled]⟩

/-! ### The turn of each input -/

theorem pressInSearch_turn (editing : host.mode = .search) (key : Key) (input : Input)
    (message : Option String) : Turn host input ((host.told message).pressInSearch key) := by
  unfold pressInSearch
  split
  · rename_i box typed
    exact .searched key box editing typed rfl
  · rename_i box typed
    exact .moved key box .done .normal (by decide) editing typed rfl
  · rename_i box typed
    exact .moved key box .unchanged host.mode (by decide) editing typed rfl

theorem editSearch_turn (host : Host α) (input : Input) (message : Option String) :
    Turn host input (host.told message).editSearch := by
  unfold editSearch
  split
  · rename_i open_
    exact .searching open_ rfl
  · exact .idle rfl

theorem toggleSelection_turn (host : Host α) (input : Input) (message : Option String) :
    Turn host input (host.told message).toggleSelection := by
  unfold toggleSelection
  split
  · exact .idle rfl
  · dsimp only
    rw [announce_eq]
    exact .passed (.selectLine _) (.selectLine _) rfl

theorem moveSelection_turn (host : Host α) (steps : Int) (input : Input)
    (message : Option String) : Turn host input ((host.told message).moveSelection steps) := by
  unfold moveSelection
  dsimp only
  rw [announce_eq]
  exact .passed (.moveSelection steps) (.moveSelection steps) rfl

theorem pressInViewer_turn (normal : host.mode = .normal) (key : Key) (control : Bool) (now : Nat)
    (message : Option String) :
    Turn host (.key key control now) ((host.told message).pressInViewer key now) := by
  unfold pressInViewer
  split
  case h_1 =>
    rw [focusNext_told]
    exact .switched normal rfl
  case h_2 => exact .toggled now normal rfl
  case h_3 | h_4 => exact host.editSearch_turn _ message
  case h_5 => exact .passed _ (.setShowDebug _) rfl
  case h_6 => exact .passed _ .toggleFollowTail rfl
  case h_7 => exact .passed _ .toggleFullscreen rfl
  case h_8 => exact .passed _ .exitFullscreen rfl
  case h_9 | h_10 | h_11 | h_12 | h_13 | h_14 => exact .passed _ (.scrollByRows _ now) rfl
  case h_15 | h_16 => exact .passed _ (.toTop now) rfl
  case h_17 => exact .passed _ (.toEnd now ⟨normal, .inl rfl⟩) rfl
  case h_18 => exact .passed _ (.toEnd now ⟨normal, .inr rfl⟩) rfl
  case h_19 => exact host.toggleSelection_turn _ message
  case h_20 | h_21 => exact host.moveSelection_turn _ _ message
  case h_22 => exact .idle rfl

theorem press_turn (host : Host α) (key : Key) (control : Bool) (now : Nat) :
    Turn host (.key key control now) (host.press key control now).1 := by
  unfold press
  split
  · exact .idle rfl
  · dsimp only
    split
    · rename_i editing
      exact pressInSearch_turn editing key _ none
    · rename_i normal
      split
      · exact .idle rfl
      · exact pressInViewer_turn normal key control now none

/-- An input makes one of these of a host. -/
theorem after_turn (host : Host α) (input : Input) : Turn host input (host.after input) := by
  cases input with
  | tick now => exact .ticked now rfl
  | key key control now => exact host.press_turn key control now
  | wheel notch now =>
    cases notch with
    | up => exact .passed _ (.scrollByRows _ now) rfl
    | down => exact .passed _ (.scrollByRows _ now) rfl
    | other => exact .idle rfl
  | draw width height =>
    refine .drawn width height ?_
    rw [after, draw_eq]
    exact host.painted_fst width height _
  | task number step => exact .streamed _ rfl

/-! ### The start -/

/-- A host with its jobs open and nothing searched for, the focus on one of them. -/
structure Fresh (coordinator : Coordinator α) (jobs : List JobSpec) (rowHeight : α) (now : Nat)
    (host : Host α) : Prop where
  all_opened : host.coordinator = coordinator.opened jobs now
  jobs_listed : host.jobs = jobs
  focus_valid : jobs ≠ [] → host.focused < jobs.length
  mode_normal : host.mode = .normal
  search_empty : host.search = .empty
  same_height : host.rowHeight = rowHeight

/-- A host starts with its jobs open. A link may move the focus, and then may open a line. -/
theorem new_cases (coordinator : Coordinator α) (jobs : List JobSpec) (rowHeight : α)
    (link : Option DeepLink) (now : Nat) :
    ∃ host, Fresh coordinator jobs rowHeight now host ∧
      (new coordinator jobs rowHeight link now = host ∨
        ∃ line, new coordinator jobs rowHeight link now = host.passing (.openAt line)) := by
  have first : jobs ≠ [] → 0 < jobs.length := List.length_pos_iff.mpr
  cases link with
  | none => exact ⟨_, ⟨rfl, rfl, first, rfl, rfl, rfl⟩, .inl rfl⟩
  | some link =>
    simp only [new, Option.elim_some, follow]
    split
    · exact ⟨_, ⟨rfl, rfl, first, rfl, rfl, rfl⟩, .inl rfl⟩
    · rename_i focused found
      have valid : focused < jobs.length := (List.findIdx?_eq_some_iff_findIdx_eq.mp found).1
      split
      · rename_i line _
        exact ⟨_, ⟨rfl, rfl, fun _ => valid, rfl, rfl, rfl⟩, .inr ⟨line, rfl⟩⟩
      · exact ⟨_, ⟨rfl, rfl, fun _ => valid, rfl, rfl, rfl⟩, .inl rfl⟩

/-! ### What a host is made with -/

/-- The jobs of a host, the height of its rows, and the tunables of its viewers. -/
def setup (host : Host α) : List JobSpec × α × Config α :=
  (host.jobs, host.rowHeight, host.coordinator.config)

theorem setup_passing (host : Host α) (action : Viewer.Action α) :
    (host.passing action).setup = host.setup := by
  rw [setup, passing, Coordinator.config_act]
  rfl

theorem setup_sized (host : Host α) (panes : List Pane) :
    (panes.foldl sized host).setup = host.setup := by
  induction panes generalizing host with
  | nil => rfl
  | cons pane panes ih =>
    refine (ih (host.sized pane)).trans ?_
    rw [setup, sized, Coordinator.config_act]
    rfl

theorem Turn.setup {input : Input} {later : Host α} (turn : Turn host input later) :
    later.setup = host.setup := by
  cases turn with
  | idle same =>
    rw [same]
    rfl
  | passed action passes same => exact (congrArg Host.setup same).trans (host.setup_passing action)
  | searched key box editing typed same =>
    exact (congrArg Host.setup same).trans (host.setup_passing (.setSearch box.text))
  | moved key box edit mode kept editing typed same =>
    rw [same]
    rfl
  | switched normal same =>
    refine (congrArg Host.setup same).trans ?_
    unfold focusNext
    split <;> rfl
  | toggled now normal same =>
    refine (congrArg Host.setup same).trans ?_
    rcases host.toggleFocused_cases now with ⟨message, toggled⟩ | ⟨message, toggled⟩
    · rw [toggled, Host.setup, told, Coordinator.config_close]
      rfl
    · rw [toggled, Host.setup, told, Coordinator.config_openViewer]
      rfl
  | searching open_ same =>
    rw [same]
    rfl
  | ticked now same =>
    rw [same]
    rfl
  | drawn width height same => exact (congrArg Host.setup same).trans (host.setup_sized _)
  | streamed connections same =>
    rw [same]
    rfl

theorem new_setup (coordinator : Coordinator α) (jobs : List JobSpec) (rowHeight : α)
    (link : Option DeepLink) (now : Nat) :
    (new coordinator jobs rowHeight link now).setup = (jobs, rowHeight, coordinator.config) := by
  obtain ⟨host, fresh, start⟩ := new_cases coordinator jobs rowHeight link now
  have made : host.setup = (jobs, rowHeight, coordinator.config) := by
    rw [setup, fresh.jobs_listed, fresh.same_height, fresh.all_opened, Coordinator.config_opened]
  rcases start with same | ⟨line, same⟩
  · rw [same, made]
  · rw [same, setup_passing, made]

theorem run_setup (coordinator : Coordinator α) (jobs : List JobSpec) (rowHeight : α)
    (link : Option DeepLink) (now : Nat) (inputs : List Input) :
    ((new coordinator jobs rowHeight link now).run inputs).setup =
      (jobs, rowHeight, coordinator.config) := by
  induction inputs using List.reverseRecOn with
  | nil => exact new_setup coordinator jobs rowHeight link now
  | append_singleton inputs input ih =>
    rw [run_concat]
    exact ((after_turn _ input).setup).trans ih

end LiveLog.Host
