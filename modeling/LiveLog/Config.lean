import LiveLog.Json
import LiveLog.Viewport

/-! The tunables of a host and its file. -/
namespace LiveLog

/-- How a connection batches and retries, in milliseconds. -/
structure StreamSettings where
  batchInterval : Nat
  retryDelay : Nat
  deriving DecidableEq, Repr

/-- The tunables of every viewer, with times in milliseconds. -/
structure Config (α : Type) where
  batchInterval : Nat
  retryDelay : Nat
  scrollSettle : Nat
  rowHeight : α
  bufferRows : Nat
  bottomTolerance : α
  showDebug : Bool

/-- Why a file was refused. -/
inductive ConfigError where
  | read
  | parse
  deriving DecidableEq, Repr

/-- The error in words, for the file at a path. -/
def ConfigError.message (path : String) : ConfigError → String
  | .read => "cannot read " ++ path
  | .parse => "cannot parse " ++ path

namespace Config

/-- The values of a file that says nothing. -/
def standard {α : Type} [Scalar α] : Config α where
  batchInterval := 16
  retryDelay := 5000
  scrollSettle := 100
  rowHeight := Scalar.ofCount 20
  bufferRows := 2
  bottomTolerance := Scalar.ofCount 10
  showDebug := false

/-- The part for connections. -/
def streamSettings {α : Type} (config : Config α) : StreamSettings :=
  ⟨config.batchInterval, config.retryDelay⟩

/-- The part for viewports. -/
def layout {α : Type} (config : Config α) : Layout α :=
  ⟨config.rowHeight, config.bufferRows, config.bottomTolerance, config.scrollSettle⟩

/-- Whether two files say the same. A value that is no number differs from itself. -/
def sameAs (a b : Config Float) : Bool :=
  a.batchInterval == b.batchInterval && a.retryDelay == b.retryDelay &&
  a.scrollSettle == b.scrollSettle && a.rowHeight == b.rowHeight &&
  a.bufferRows == b.bufferRows && a.bottomTolerance == b.bottomTolerance &&
  a.showDebug == b.showDebug

/-- The fields of a file, in the order in which a list gives them. -/
def fieldNames : List String :=
  ["batch_interval_ms", "retry_delay_ms", "scroll_settle_ms", "row_height", "buffer_rows",
    "bottom_tolerance", "show_debug"]

/-- A double. Integers are taken for one as well. -/
def double? : Json → Option Float
  | .number (.integer value) => some (Float.ofInt value)
  | .number (.real value) => some value
  | _ => none

/-- A count of 64 bits. -/
def count? (value : Json) : Option Nat :=
  value.word?.map UInt64.toNat

/-- A truth value. -/
def truth? : Json → Option Bool
  | .bool value => some value
  | _ => none

/-- Sets one field. Unknown fields and values of the wrong kind are refused. -/
def put? (config : Config Float) (field : String) (value : Json) : Option (Config Float) :=
  match field with
  | "batch_interval_ms" => (count? value).map fun n => { config with batchInterval := n }
  | "retry_delay_ms" => (count? value).map fun n => { config with retryDelay := n }
  | "scroll_settle_ms" => (count? value).map fun n => { config with scrollSettle := n }
  | "row_height" => (double? value).map fun x => { config with rowHeight := x }
  | "buffer_rows" => (count? value).map fun n => { config with bufferRows := n }
  | "bottom_tolerance" => (double? value).map fun x => { config with bottomTolerance := x }
  | "show_debug" => (truth? value).map fun b => { config with showDebug := b }
  | _ => none

/-- Sets fields one after the other. No field may be set twice. -/
def putAll? (config : Config Float) : List (String × Json) → Option (Config Float)
  | [] => some config
  | (field, value) :: rest =>
    if rest.any (·.1 == field) then none
    else do putAll? (← put? config field value) rest

/-- The tunables a value describes: an object of fields, or a list of their values from the first one
on. What is not given keeps its standard value. -/
def ofJson? : Json → Option (Config Float)
  | .object members => putAll? standard members
  | .array values =>
    if values.length ≤ fieldNames.length then putAll? standard (fieldNames.zip values) else none
  | _ => none

/-- Reads the bytes of a file. -/
def ofBytes (bytes : ByteArray) : Except ConfigError (Config Float) :=
  match String.fromUTF8? bytes with
  | none => .error .read
  | some text =>
    match Json.read? text >>= ofJson? with
    | some config => .ok config
    | none => .error .parse

end Config

end LiveLog
