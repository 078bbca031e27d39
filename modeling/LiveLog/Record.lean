import LiveLog.Json
import LiveLog.Text.Casing
import LiveLog.Timestamp

/-! Log records, the lines of job output, and decoding what the log server pushes. A payload is one record or
a list of records; a record that cannot be decoded is left out of its batch and disturbs no other. -/
namespace LiveLog

/-- The levels the log server is known to use, and any other word it may send. -/
inductive Level where
  | debug
  | trace
  | info
  | warn
  | error
  | other (word : String)
  deriving DecidableEq, Repr, Inhabited

namespace Level

/-- Reads a level. The known words are recognised whatever the case of their ASCII letters; any other
word is kept as it is. -/
def parse (word : String) : Level :=
  match String.ofList (word.toList.map Text.asciiLower) with
  | "debug" => .debug
  | "trace" => .trace
  | "info" => .info
  | "warn" => .warn
  | "warning" => .warn
  | "error" => .error
  | _ => .other word

/-- Verbose records are hidden unless they are asked for. -/
def isVerbose : Level → Bool
  | .debug => true
  | .trace => true
  | _ => false

/-- The level as it is shown. -/
def label : Level → String
  | .debug => "DEBUG"
  | .trace => "TRACE"
  | .info => "INFO"
  | .warn => "WARN"
  | .error => "ERROR"
  | .other word => Text.upper word

end Level

/-! ### Records -/

/-- A log record. It is never changed after it was decoded. -/
structure Record where
  /-- The time of day, as text. -/
  timestamp : String
  message : String
  level : Level
  /-- The line number the log server gave it. -/
  sequence : UInt64
  deriving DecidableEq, Repr, Inhabited

/-! ### Decoding -/

/-- The fields a record cannot do without. -/
inductive RequiredField where
  | message
  | line
  deriving DecidableEq, Repr

/-- Why a payload or a record was refused. -/
inductive DecodeError where
  | notAnObject
  | missingField (field : RequiredField)
  | invalidPayload
  | unexpectedShape
  deriving DecidableEq, Repr

/-- The name of a required field. -/
def RequiredField.name : RequiredField → String
  | .message => "message"
  | .line => "line"

/-- The error in words. -/
def DecodeError.message : DecodeError → String
  | .notAnObject => "record is not a JSON object"
  | .missingField field => "missing required field: " ++ field.name
  | .invalidPayload => "invalid payload"
  | .unexpectedShape => "payload is neither a record nor a list of records"

namespace Record

/-- The line number among the members of an object. The name `sequence` counts only where there is
no `line`. -/
def lineMember? (members : List (String × Json)) : Option Json :=
  Json.member? "line" members <|> Json.member? "sequence" members

/-- Decodes one record. The message and the line number have to be there; level and time have
defaults and are never a reason to refuse. -/
def decode (raw : Json) : Except DecodeError Record :=
  match raw with
  | .object members => do
    let message ← match Json.member? "message" members >>= Json.text? with
      | some message => .ok message
      | none => .error (.missingField .message)
    let sequence ← match lineMember? members >>= Json.word? with
      | some sequence => .ok sequence
      | none => .error (.missingField .line)
    let level := (Json.member? "level" members >>= Json.text?).elim .info Level.parse
    let timestamp := (Json.member? "timestamp" members >>= Json.text?).elim "" Timestamp.timeOfDay
    return { timestamp, message, level, sequence }
  | _ => .error .notAnObject

/-- The records of a batch that can be decoded, in order. -/
def decodeBatch (raw : List Json) : List Record :=
  raw.filterMap fun item => (decode item).toOption

end Record

/-- The raw records of one pushed payload. -/
def splitPayload (payload : String) : Except DecodeError (List Json) :=
  match Json.read? payload with
  | none => .error .invalidPayload
  | some (.array items) => .ok items
  | some (.object members) => .ok [.object members]
  | some _ => .error .unexpectedShape

end LiveLog
