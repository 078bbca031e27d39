import LiveLog.Session

/-! The command line: the recorded event stream comes from standard input, and what the host shows of it
goes to standard output, followed by the location of the viewer in focus. -/
namespace LiveLog.Main

/-- The columns of the screen. -/
def screenWidth : Nat := 80

/-- The rows of the screen. -/
def screenHeight : Nat := 24

/-- Everything a stream has. -/
partial def readAll (stream : IO.FS.Stream) (done : ByteArray) : IO ByteArray := do
  let bytes ← stream.read 65536
  if bytes.isEmpty then return done else readAll stream (done ++ bytes)

/-- The tunables of a file, or the standard ones. -/
def loadConfig (path : Option String) : IO (Except String (Config Float)) := do
  match path with
  | none => return .ok Config.standard
  | some path =>
    try
      return (Config.ofBytes (← IO.FS.readBinFile path)).mapError (ConfigError.message path)
    catch _ => return .error (ConfigError.message path .read)

/-- Tells of an error and ends with a code. -/
def fail (message : String) (code : UInt32) : IO UInt32 := do
  IO.eprintln message
  return code

/-- Shows a session. -/
def present (session : Session) (logFile : Option String) : IO UInt32 := do
  let bytes ← readAll (← IO.getStdin) ByteArray.empty
  let payloads := Session.recorded bytes.toList
  if let some path := logFile then
    IO.FS.writeFile path (String.join ((Session.refusals payloads).map (· ++ "\n")))
  let (host, frame) := (session.play payloads).draw screenWidth screenHeight
  for row in frame.grid.rows do
    IO.println (Screen.rowText row)
  if let some viewer := host.focusedViewer? then
    IO.println ("#" ++ viewer.location.token)
  return 0

end LiveLog.Main

open LiveLog in
/-- Reads the arguments and shows the session they describe. -/
def main (arguments : List String) : IO UInt32 := do
  match CommandLine.parse arguments with
  | .error .help =>
    IO.println CommandLineError.help.message
    return 0
  | .error error => Main.fail ("error: " ++ error.message) 2
  | .ok arguments =>
    match ← Main.loadConfig arguments.config with
    | .error message => Main.fail ("Error: " ++ message) 1
    | .ok config =>
      match Session.ofArguments arguments config with
      | .error error => Main.fail ("Error: " ++ error.message) 1
      | .ok session => Main.present session arguments.logFile
