import LiveLog.Text.Utf8

/-! The framing of a pushed event stream, and what can go wrong on the way. Bytes arrive in pieces that may end
anywhere, also inside a line or inside a character; only whole lines are looked at. A line ends with a line
feed, and a carriage return before it belongs to the end. -/
namespace LiveLog

/-- Why a stream could not be opened, or broke off. -/
inductive TransportError where
  | request (detail : String)
  | status (code : Nat)
  | closed
  | other (text : String)
  deriving DecidableEq, Repr

/-- The error in words. -/
def TransportError.message : TransportError → String
  | .request detail => "request failed: " ++ detail
  | .status code => "server answered with status " ++ toString code
  | .closed => "stream closed by server"
  | .other text => text

namespace EventStream

/-- An event: its name, which is `message` unless the server set another, and its data. -/
structure Event where
  name : String
  data : String
  deriving DecidableEq, Repr

/-- The name of events that were given none. -/
def defaultName : String := "message"

/-- Whether an event carries log records. -/
def Event.isMessage (event : Event) : Bool :=
  event.name = defaultName

/-- The bytes of the line that is not finished, and the event that is not: its name if it has been
set, and its lines of data. -/
structure Decoder where
  pending : List UInt8
  name : Option String
  data : List String
  deriving DecidableEq, Repr

/-- A decoder that has seen nothing. -/
def Decoder.new : Decoder := ⟨[], none, []⟩

/-- The byte that ends a line. -/
def lineFeed : UInt8 := 10

/-- The byte that may stand before it. -/
def carriageReturn : UInt8 := 13

/-- Cuts bytes into the lines that are finished and the rest. `line` holds the bytes of the line so
far, last first, and `lines` the finished lines, last first. -/
def cutLinesFrom (line : List UInt8) (lines : List (List UInt8)) :
    List UInt8 → List (List UInt8) × List UInt8
  | [] => (lines.reverse, line.reverse)
  | b :: rest =>
    if b = lineFeed then cutLinesFrom [] (line.reverse :: lines) rest
    else cutLinesFrom (b :: line) lines rest

/-- The finished lines, without their ends, and the bytes after the last of them. -/
def cutLines (bytes : List UInt8) : List (List UInt8) × List UInt8 :=
  cutLinesFrom [] [] bytes

/-- The line without one carriage return at its end. -/
def dropReturn (line : List UInt8) : List UInt8 :=
  if line.getLast? = some carriageReturn then line.dropLast else line

/-- The name and the value of a field. One space after the colon does not count, and a line without a
colon is a name alone. -/
def splitField (line : List Char) : List Char × List Char :=
  let name := line.takeWhile (· ≠ ':')
  match line.dropWhile (· ≠ ':') with
  | ':' :: ' ' :: value => (name, value)
  | ':' :: value => (name, value)
  | _ => (name, [])

namespace Decoder

/-- An empty line ends an event. Without data there is none, and its name is forgotten either way. -/
def dispatch (decoder : Decoder) : Decoder × Option Event :=
  let ended := { decoder with name := none, data := [] }
  if decoder.data.isEmpty then (ended, none)
  else
    let name := (decoder.name.filter (· ≠ "")).getD defaultName
    (ended, some ⟨name, String.intercalate "\n" decoder.data⟩)

/-- One line of text. Comments and fields other than name and data have no effect. -/
def line (decoder : Decoder) (text : String) : Decoder × Option Event :=
  match text.toList with
  | [] => decoder.dispatch
  | ':' :: _ => (decoder, none)
  | chars =>
    let (field, value) := splitField chars
    if field = "event".toList then ({ decoder with name := some (String.ofList value) }, none)
    else if field = "data".toList then
      ({ decoder with data := decoder.data ++ [String.ofList value] }, none)
    else (decoder, none)

/-- One finished line of bytes. -/
def byteLine (decoder : Decoder) (bytes : List UInt8) : Decoder × Option Event :=
  decoder.line (Text.decodeLossy (dropReturn bytes))

/-- Finished lines one after the other, with the events they completed. -/
def byteLines (decoder : Decoder) (lines : List (List UInt8)) : Decoder × List Event :=
  lines.foldl (fun (decoder, events) bytes =>
    let (decoder, event) := decoder.byteLine bytes
    (decoder, events ++ event.toList)) (decoder, [])

/-- A piece of the stream, with the events it completed. -/
def feed (decoder : Decoder) (chunk : List UInt8) : Decoder × List Event :=
  let (lines, rest) := cutLines (decoder.pending ++ chunk)
  { decoder with pending := rest }.byteLines lines

/-- Pieces of the stream one after the other, with all events they completed. -/
def feedAll (decoder : Decoder) (chunks : List (List UInt8)) : Decoder × List Event :=
  chunks.foldl (fun (decoder, events) chunk =>
    let (decoder, more) := decoder.feed chunk
    (decoder, events ++ more)) (decoder, [])

end Decoder

/-! ### The payloads of an answered request

The body arrives in chunks; its events that carry records are handed on one at a time, as a stream that reads
another chunk whenever it has nothing ready. -/

/-- What reading the body gives next. -/
inductive Read where
  | chunk (bytes : List UInt8)
  | failure (error : TransportError)
  deriving DecidableEq, Repr

/-- What the payload stream hands on. -/
inductive Item where
  | payload (data : String)
  | failure (error : TransportError)
  deriving DecidableEq, Repr

/-- The payload stream: its decoder, and the payloads that wait to be handed on. -/
structure Body where
  decoder : Decoder
  ready : List String
  deriving DecidableEq, Repr

/-- A body of which nothing was read. -/
def Body.new : Body := ⟨Decoder.new, []⟩

/-- The payloads among events. -/
def payloads (events : List Event) : List String :=
  (events.filter Event.isMessage).map Event.data

/-- Reads on until an event with a payload completes, the body ends, or reading fails. -/
def pull? (decoder : Decoder) : List Read → Option (Item × Body × List Read)
  | [] => none
  | .failure error :: reads => some (.failure error, ⟨decoder, []⟩, reads)
  | .chunk bytes :: reads =>
    match payloads (decoder.feed bytes).2 with
    | data :: ready => some (.payload data, ⟨(decoder.feed bytes).1, ready⟩, reads)
    | [] => pull? (decoder.feed bytes).1 reads

/-- The next item, together with the stream after it and what is left to read. -/
def Body.next? (body : Body) (reads : List Read) : Option (Item × Body × List Read) :=
  match body.ready with
  | data :: ready => some (.payload data, { body with ready }, reads)
  | [] => pull? body.decoder reads

/-- The items of a body, up to its end or its first failure. No more than `limit` are taken. -/
def Body.itemsWithin (body : Body) (reads : List Read) : Nat → List Item
  | 0 => []
  | limit + 1 =>
    match body.next? reads with
    | none => []
    | some (.failure error, _, _) => [.failure error]
    | some (.payload data, body, reads) => .payload data :: body.itemsWithin reads limit

/-- The number of bytes in what was read. -/
def sizeOfReads : List Read → Nat
  | [] => 0
  | .chunk bytes :: reads => bytes.length + sizeOfReads reads
  | .failure _ :: reads => sizeOfReads reads

/-- The items of a body. Every event takes a line, so there are fewer of them than bytes. -/
def items (reads : List Read) : List Item :=
  Body.new.itemsWithin reads (sizeOfReads reads + 1)

/-- Whether a status code announces success. -/
def isSuccess (code : Nat) : Bool :=
  200 ≤ code && code < 300

/-- Whether an answer with a status code has a body. The code for "no content" rules one out. -/
def hasBody (code : Nat) : Bool :=
  code ≠ 204

/-- The items of an answered request, unless its status refuses it. -/
def answer (code : Nat) (reads : List Read) : Except TransportError (List Item) :=
  if isSuccess code then .ok (if hasBody code then items reads else []) else .error (.status code)

/-- The media type a request asks for. -/
def mediaType : String := "text/event-stream"

end EventStream

end LiveLog
