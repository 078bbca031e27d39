import LiveLog.Coordinator
import LiveLog.SearchBox

/-! The terminal host: a list of jobs it is asked to follow, one of them in focus, and what keys and the mouse
wheel do to it. -/
namespace LiveLog

/-- A job and the address its log is pushed from. -/
structure JobSpec where
  job : String
  url : String
  deriving DecidableEq, Repr, Inhabited

/-- Why a job argument was refused. -/
inductive JobSpecError where
  | malformed (argument : String)
  | noAddress (argument : String)
  deriving DecidableEq, Repr

/-- The error in words. -/
def JobSpecError.message : JobSpecError → String
  | .malformed argument => "invalid job '" ++ argument ++ "', expected JOB=STREAM_URL"
  | .noAddress argument =>
    "job '" ++ argument ++ "' has no stream URL and no --base-url was given"

/-- The text without the slashes it ends with. -/
def dropTrailingSlashes (text : List Char) : List Char :=
  (text.reverse.dropWhile (· = '/')).reverse

/-- Reads `JOB=URL`, or a bare job whose log lies below the base address. -/
def JobSpec.parse (argument : String) (base : Option String) : Except JobSpecError JobSpec :=
  let job := argument.toList.takeWhile (· ≠ '=')
  match argument.toList.dropWhile (· ≠ '=') with
  | _ :: url =>
    if job.isEmpty || url.isEmpty then .error (.malformed argument)
    else .ok ⟨String.ofList job, String.ofList url⟩
  | [] =>
    match base with
    | some base =>
      .ok ⟨argument, String.ofList (dropTrailingSlashes base.toList ++ '/' :: argument.toList)⟩
    | none => .error (.noAddress argument)

/-- Whether keys go to the viewer in focus or to the search box. -/
inductive InputMode where
  | normal
  | search
  deriving DecidableEq, Repr

/-- The mouse events a host tells apart. -/
inductive Wheel where
  | up
  | down
  | other
  deriving DecidableEq, Repr

/-- The state of a host. The height of a row is the one its viewers count with. -/
structure Host (α : Type) where
  coordinator : Coordinator α
  jobs : List JobSpec
  focused : Nat
  mode : InputMode
  search : SearchBox
  message : Option String
  rowHeight : α

namespace Host

variable {α : Type} [Scalar α]

/-- The rows one notch of the wheel scrolls. -/
def wheelRows : Int := 3

/-- The job in focus. -/
def focusedJob (host : Host α) : JobSpec :=
  (host.jobs[host.focused]?).getD default

/-- The instance in focus. -/
def focusedId (host : Host α) : InstanceId :=
  InstanceId.ofJob host.focusedJob.job

/-- The viewer in focus, if it is open. -/
def focusedViewer? (host : Host α) : Option (Viewer α) :=
  host.coordinator.viewer? host.focusedId

/-- Whether the viewer in focus takes the whole screen. -/
def isFullscreen (host : Host α) : Bool :=
  host.focusedViewer?.any (·.viewport.isFullscreen)

/-- Changes the coordinator by an operation that also answers; the answer is dropped. -/
def coordinate {β : Type} (host : Host α) (act : Coordinator α → Coordinator α × β) : Host α :=
  { host with coordinator := (act host.coordinator).1 }

/-- Goes to the location of a link. -/
def follow (host : Host α) (link : DeepLink) : Host α :=
  match host.jobs.findIdx? (·.job == link.job) with
  | none => { host with message := some ("Unknown job in link: " ++ link.job) }
  | some focused =>
    let host := { host with focused }
    match link.line with
    | some line => host.coordinate (·.openAt host.focusedId line)
    | none => host

/-- A host that opens its jobs in order and then goes to a link, if one was given. -/
def new (coordinator : Coordinator α) (jobs : List JobSpec) (rowHeight : α)
    (link : Option DeepLink) (now : Nat) : Host α :=
  let opened := jobs.foldl (fun coordinator job => (coordinator.openViewer job.job job.url now).1)
    coordinator
  let host : Host α :=
    { coordinator := opened, jobs, focused := 0, mode := .normal, search := SearchBox.empty,
      message := none, rowHeight }
  link.elim host host.follow

/-- What the host does between two inputs. -/
def tick (host : Host α) (now : Nat) : Host α :=
  host.coordinate (·.pump now)

/-- The rows of a page: those that fit in the viewer in focus, and never less than one. -/
def pageRows (host : Host α) : Int :=
  max 1 (host.focusedViewer?.elim 1 fun viewer =>
    Scalar.truncate (viewer.viewport.containerHeight / host.rowHeight))

/-- The focus goes to the next job, and the search box takes over what that one is searched for. -/
def focusNext (host : Host α) : Host α :=
  if host.jobs.isEmpty then host
  else
    let host := { host with focused := (host.focused + 1) % host.jobs.length }
    { host with
      search := SearchBox.ofText (host.focusedViewer?.elim "" (·.buffer.filter.text)) }

/-- Opens or closes the job in focus, and says which. -/
def toggleFocused (host : Host α) (now : Nat) : Host α :=
  let job := host.focusedJob
  match host.coordinator.toggle job.job job.url now with
  | (coordinator, some _) =>
    { host with
      coordinator
      search := SearchBox.ofText ""
      message := some ("Streaming logs for " ++ job.job) }
  | (coordinator, none) =>
    { host with coordinator, message := some ("Closed logs for " ++ job.job) }

/-- The message that shows a location. -/
def announce (host : Host α) (link : Option DeepLink) : Host α :=
  match link with
  | some link => { host with message := some ("#" ++ link.token) }
  | none => host

/-- Selects the first record in sight, or ends a selection. -/
def toggleSelection (host : Host α) : Host α :=
  match host.focusedViewer? with
  | none => host
  | some viewer =>
    let line := match viewer.viewport.selectedLine with
      | some _ => none
      | none => viewer.visibleRecords.head?.map Record.sequence
    let (coordinator, link) := host.coordinator.selectLine host.focusedId line
    { host with coordinator }.announce link

/-- Moves the selection. -/
def moveSelection (host : Host α) (steps : Int) : Host α :=
  let (coordinator, link) := host.coordinator.moveSelection host.focusedId steps
  { host with coordinator }.announce link

/-- A key while the search box is edited. -/
def pressInSearch (host : Host α) (key : Key) : Host α :=
  match host.search.press key with
  | (search, .changed) => { host with search }.coordinate (·.setSearch host.focusedId search.text)
  | (search, .done) => { host with search, mode := .normal }
  | (search, .unchanged) => { host with search }

/-- Scrolls the viewer in focus by rows. -/
def scrollRows (host : Host α) (steps : Int) (now : Nat) : Host α :=
  host.coordinate (·.scrollByRows host.focusedId steps now)

/-- Scrolls the viewer in focus to an offset. -/
def scrollTo (host : Host α) (offset : α) (now : Nat) : Host α :=
  host.coordinate (·.scrollTo host.focusedId offset now)

/-- Shows verbose records in the viewer in focus, or hides them again. -/
def toggleDebug (host : Host α) : Host α :=
  let showDebug := host.focusedViewer?.any fun viewer => !viewer.buffer.filter.showVerbose
  host.coordinate (·.setShowDebug host.focusedId showDebug)

/-- The search box is edited from now on, if the viewer in focus is open. -/
def editSearch (host : Host α) : Host α :=
  if host.coordinator.isOpen host.focusedId then { host with mode := .search } else host

/-- A key while no search is edited. -/
def pressInViewer (host : Host α) (key : Key) (now : Nat) : Host α :=
  match key with
  | .tab => host.focusNext
  | .char 'x' => host.toggleFocused now
  | .char '/' => host.editSearch
  | .char 'f' => host.editSearch
  | .char 'd' => host.toggleDebug
  | .char 't' => host.coordinate (·.toggleFollowTail host.focusedId)
  | .char 'z' => host.coordinate (·.toggleFullscreen host.focusedId)
  | .escape => host.coordinate (·.exitFullscreen host.focusedId)
  | .up => host.scrollRows (-1) now
  | .char 'k' => host.scrollRows (-1) now
  | .down => host.scrollRows 1 now
  | .char 'j' => host.scrollRows 1 now
  | .pageUp => host.scrollRows (-host.pageRows) now
  | .pageDown => host.scrollRows host.pageRows now
  | .home => host.scrollTo Scalar.zero now
  | .char 'g' => host.scrollTo Scalar.zero now
  | .endKey => host.scrollTo Scalar.largest now
  | .char 'G' => host.scrollTo Scalar.largest now
  | .char 'v' => host.toggleSelection
  | .char 'J' => host.moveSelection 1
  | .char 'K' => host.moveSelection (-1)
  | _ => host

/-- A key, with or without control. Tells whether the host is to end. A key takes away the message
shown so far, unless it ends the host with control. -/
def press (host : Host α) (key : Key) (control : Bool) (now : Nat) : Host α × Bool :=
  if control && key = .char 'c' then (host, true)
  else
    let host := { host with message := none }
    match host.mode with
    | .search => (host.pressInSearch key, false)
    | .normal =>
      if key = .char 'q' then (host, true) else (host.pressInViewer key now, false)

/-- A notch of the mouse wheel. -/
def wheel (host : Host α) (wheel : Wheel) (now : Nat) : Host α :=
  match wheel with
  | .up => host.scrollRows (-wheelRows) now
  | .down => host.scrollRows wheelRows now
  | .other => host

end Host

end LiveLog
