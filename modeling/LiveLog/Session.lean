import LiveLog.CommandLine
import LiveLog.EventStream
import LiveLog.Host.Draw
import LiveLog.Rehearsal.Clock

/-! A host from its command line to its screen. The log server is a recorded event stream: the job in
focus receives what was recorded, and every other job waits for an answer that never comes. -/
namespace LiveLog

/-- What a host starts with. -/
structure Session where
  jobs : List JobSpec
  link : Option DeepLink
  config : Config Float

/-- Why a host could not start. -/
inductive SessionError where
  | job (error : JobSpecError)
  | link (error : DeepLinkError)
  deriving DecidableEq, Repr

/-- The error in words. -/
def SessionError.message : SessionError → String
  | .job error => error.message
  | .link error => error.message

namespace Session

/-- The jobs of the arguments. The first one that cannot be understood decides the error. -/
def jobs? (arguments : Arguments) : Except SessionError (List JobSpec) :=
  arguments.jobs.mapM fun argument =>
    (JobSpec.parse argument arguments.baseUrl).mapError SessionError.job

/-- The location the arguments ask for. -/
def link? (arguments : Arguments) : Except SessionError (Option DeepLink) :=
  match arguments.select with
  | none => .ok none
  | some text => ((DeepLink.parse text).mapError SessionError.link).map some

/-- What arguments and tunables describe. Verbose records are shown if either asks for it. -/
def ofArguments (arguments : Arguments) (config : Config Float) : Except SessionError Session := do
  let jobs ← jobs? arguments
  let link ← link? arguments
  return ⟨jobs, link, { config with showDebug := config.showDebug || arguments.showDebug }⟩

/-- The payloads of a recorded event stream. -/
def recorded (bytes : List UInt8) : List String :=
  EventStream.payloads (EventStream.Decoder.new.feed bytes).2

/-- The recorded payloads that cannot be read, each with the reason. -/
def refusals (payloads : List String) : List String :=
  payloads.filterMap fun payload =>
    match splitPayload payload with
    | .ok _ => none
    | .error error => some ("dropping unparsable batch: " ++ error.message)

/-- The name of the feed that holds the recording. -/
def feedName : String := "recording"

/-- The answers of the server: the recording for the address in focus, and none for the others. -/
def scripts (session : Session) (focused : JobSpec) : List (String × List Rehearsal.Answer) :=
  session.jobs.map fun job =>
    (job.url, [if job.url = focused.url then .serve feedName else .hang])

/-- The host before anything arrived. -/
def host (session : Session) : Host Float :=
  Host.new (Coordinator.new session.config) session.jobs session.config.rowHeight session.link 0

/-- The host after the recording arrived and was applied. -/
def play (session : Session) (payloads : List String) : Host Float :=
  let host := session.host
  let server := Rehearsal.Server.ofScripts (session.scripts host.focusedJob)
  let fed := payloads.foldl (fun server payload => (server.put feedName (.ok payload)).1) server
  let scene := ((Rehearsal.Scene.start fed host).settle).advance session.config.batchInterval
  scene.holder.tick scene.now

end Session

end LiveLog
