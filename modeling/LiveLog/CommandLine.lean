/-! The command line of the host. Arguments are taken from left to right, and the first one that
cannot be understood decides the error; whether a job was given at all is asked last.

An option takes its value from the same argument, after an equals sign or right behind its letter, or
from the next argument unless that one starts with a dash. What an option was given is recorded only
when the argument after it is looked at, so that an unknown argument is reported before a repetition
that precedes it. -/
namespace LiveLog

/-- What the arguments ask for. -/
structure Arguments where
  jobs : List String
  baseUrl : Option String
  select : Option String
  showDebug : Bool
  config : Option String
  logFile : Option String
  deriving DecidableEq, Repr

/-- Why the arguments were refused. Asking for help counts as a refusal. -/
inductive CommandLineError where
  | missingJob
  | unknownArgument
  | help
  | repeated
  | missingValue
  | unexpectedValue
  deriving DecidableEq, Repr

/-- The error in words. For help it is the help itself. -/
def CommandLineError.message : CommandLineError → String
  | .missingJob => "no job was given"
  | .unknownArgument => "an argument is not known"
  | .help =>
    "Tail the live logs of one or more CI jobs\n\n" ++
    "  JOB=STREAM_URL    a job to follow, or a bare job id with --base-url\n" ++
    "  -b, --base-url    log server URL; streams are read from <base-url>/<job>\n" ++
    "  -s, --select      deep link to open at, JOB or JOB:LINE\n" ++
    "  -d, --show-debug  show debug and trace records\n" ++
    "  -c, --config      JSON file with viewer tunables\n" ++
    "      --log-file    write diagnostics to this file"
  | .repeated => "an option was given twice"
  | .missingValue => "an option lacks its value"
  | .unexpectedValue => "an option without a value was given one"

namespace CommandLine

/-- Options that take a value. -/
inductive Setting where
  | baseUrl
  | select
  | config
  | logFile
  deriving DecidableEq, Repr

/-- Options of either kind. -/
inductive Flag where
  | setting (setting : Setting)
  | showDebug
  | help
  deriving DecidableEq, Repr

/-- The option with a given letter. -/
def ofLetter? : Char → Option Flag
  | 'b' => some (.setting .baseUrl)
  | 's' => some (.setting .select)
  | 'c' => some (.setting .config)
  | 'd' => some .showDebug
  | 'h' => some .help
  | _ => none

/-- The option with a given name. -/
def ofName? : String → Option Flag
  | "base-url" => some (.setting .baseUrl)
  | "select" => some (.setting .select)
  | "config" => some (.setting .config)
  | "log-file" => some (.setting .logFile)
  | "show-debug" => some .showDebug
  | "help" => some .help
  | _ => none

/-- Nothing asked for yet. -/
def blank : Arguments := ⟨[], none, none, false, none, none⟩

/-- What a setting was given so far. -/
def given (arguments : Arguments) : Setting → Option String
  | .baseUrl => arguments.baseUrl
  | .select => arguments.select
  | .config => arguments.config
  | .logFile => arguments.logFile

/-- Paths may not be empty. -/
def needsText : Setting → Bool
  | .config => true
  | .logFile => true
  | _ => false

/-- The arguments with a setting filled in. -/
def put (arguments : Arguments) (value : String) : Setting → Arguments
  | .baseUrl => { arguments with baseUrl := some value }
  | .select => { arguments with select := some value }
  | .config => { arguments with config := some value }
  | .logFile => { arguments with logFile := some value }

/-- Fills in a setting. It may be given once. -/
def assign (arguments : Arguments) (setting : Setting) (value : String) :
    Except CommandLineError Arguments :=
  if (given arguments setting).isSome then .error .repeated
  else if needsText setting && value.isEmpty then .error .missingValue
  else .ok (put arguments value setting)

/-- A setting that was named and not yet filled in. -/
inductive Waiting where
  | nothing
  | value (setting : Setting)
  | recorded (setting : Setting) (value : String)

/-- How far the arguments have been read. After `--` every argument is a job. -/
structure Progress where
  arguments : Arguments
  waiting : Waiting
  jobsOnly : Bool

/-- Fills in the setting that waits. -/
def settle (progress : Progress) : Except CommandLineError Progress :=
  match progress.waiting with
  | .nothing => .ok progress
  | .value _ => .error .missingValue
  | .recorded setting value => do
    return { progress with arguments := ← assign progress.arguments setting value, waiting := .nothing }

/-- A setting whose value, if it came along, is known. -/
def take (progress : Progress) (setting : Setting) (value : Option String) :
    Except CommandLineError Progress := do
  let progress ← settle progress
  match value with
  | some value => return { progress with arguments := ← assign progress.arguments setting value }
  | none => return { progress with waiting := .value setting }

/-- An option without a value. -/
def turnOn (progress : Progress) : Except CommandLineError Progress := do
  let progress ← settle progress
  if progress.arguments.showDebug then .error .repeated
  else return { progress with arguments := { progress.arguments with showDebug := true } }

/-- Help is given unless a setting before it lacks its value. -/
def askHelp (progress : Progress) : Except CommandLineError Progress := do
  let _ ← settle progress
  .error .help

/-- The value behind a letter: what follows it, less one equals sign. -/
def attached : List Char → Option String
  | [] => none
  | '=' :: value => some (String.ofList value)
  | value => some (String.ofList value)

/-- The letters of one argument. A setting takes the letters behind it as its value. -/
def takeLetters (progress : Progress) : List Char → Except CommandLineError Progress
  | [] => .ok progress
  | letter :: rest =>
    match ofLetter? letter with
    | none => .error .unknownArgument
    | some (.setting setting) => take progress setting (attached rest)
    | some .showDebug => do takeLetters (← turnOn progress) rest
    | some .help => askHelp progress

/-- A named option, with what follows its first equals sign. -/
def takeName (progress : Progress) (text : List Char) : Except CommandLineError Progress :=
  let value := match text.dropWhile (· ≠ '=') with
    | _ :: value => some (String.ofList value)
    | [] => none
  match ofName? (String.ofList (text.takeWhile (· ≠ '='))) with
  | none => .error .unknownArgument
  | some (.setting setting) => take progress setting value
  | some flag =>
    if value.isSome then .error .unexpectedValue
    else match flag with
      | .help => askHelp progress
      | _ => turnOn progress

/-- An argument that is no option: the value that is waited for, or a job. -/
def takePlain (progress : Progress) (argument : String) : Except CommandLineError Progress := do
  match progress.waiting, progress.jobsOnly with
  | .value setting, false => return { progress with waiting := .recorded setting argument }
  | _, _ =>
    let progress ← settle progress
    return { progress with
      arguments := { progress.arguments with jobs := progress.arguments.jobs ++ [argument] } }

/-- One argument. -/
def step (progress : Progress) (argument : String) : Except CommandLineError Progress :=
  if progress.jobsOnly then takePlain progress argument
  else match argument.toList with
    | ['-', '-'] => .ok { progress with jobsOnly := true }
    | '-' :: '-' :: text => takeName progress text
    | ['-'] => takePlain progress argument
    | '-' :: letters => takeLetters progress letters
    | _ => takePlain progress argument

/-- Reads all arguments. -/
def parse (arguments : List String) : Except CommandLineError Arguments := do
  let progress ← settle (← arguments.foldlM step ⟨blank, .nothing, false⟩)
  if progress.arguments.jobs.isEmpty then .error .missingJob else return progress.arguments

end CommandLine

end LiveLog
