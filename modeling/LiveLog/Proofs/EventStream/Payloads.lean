import LiveLog.EventStream
import LiveLog.Proofs.EventStream.Chunking
import LiveLog.Proofs.Text.Utf8

/-! The payload stream of a body hands on the data of the message events in it, in their order, and then
the failure if reading fails. How the body was cut into chunks does not matter: a chunk may complete no
event or several, and what waits to be handed on is handed on before the next chunk is read. -/
namespace LiveLog.EventStream

/-- How the reading of a body comes to an end: there is no more of it, or reading fails. What could be
read after a failure is left alone. -/
inductive Ending where
  | complete
  | failed (error : TransportError) (later : List Read)

def Ending.reads : Ending → List Read
  | .complete => []
  | .failed error later => .failure error :: later

def Ending.items : Ending → List Item
  | .complete => []
  | .failed error _ => [.failure error]

/-- What a body hands on when it is pulled from again and again, until its end or its first failure. The
pulls that are made are finitely many, and their limit is not set beforehand. -/
inductive Body.Yields : Body → List Read → List Item → Prop
  | ended {body : Body} {reads : List Read} (pulled : body.next? reads = none) : Yields body reads []
  | failed {body later : Body} {reads rest : List Read} {error : TransportError}
      (pulled : body.next? reads = some (.failure error, later, rest)) :
      Yields body reads [.failure error]
  | handed {body later : Body} {reads rest : List Read} {data : String} {items : List Item}
      (pulled : body.next? reads = some (.payload data, later, rest)) (others : Yields later rest items) :
      Yields body reads (.payload data :: items)

namespace Body

variable {body : Body} {decoder : Decoder} {reads : List Read} {items : List Item}

/-! ### One pull -/

/-- With nothing ready, a pull that finds a chunk goes on as if the events of the chunk had been ready. -/
theorem next?_chunk (decoder : Decoder) (bytes : List UInt8) (reads : List Read) :
    Body.next? ⟨decoder, []⟩ (.chunk bytes :: reads) =
      Body.next? ⟨(decoder.feed bytes).1, payloads (decoder.feed bytes).2⟩ reads := by
  simp only [next?, pull?]

theorem Yields.of_same_pull {other : Body} {others : List Read}
    (same : body.next? reads = other.next? others) (yields : other.Yields others items) :
    body.Yields reads items := by
  cases yields with
  | ended pulled => exact .ended (same.trans pulled)
  | failed pulled => exact .failed (same.trans pulled)
  | handed pulled others => exact .handed (same.trans pulled) others

/-- What is ready is handed on first. -/
theorem Yields.ready (yields : Yields ⟨decoder, []⟩ reads items) (ready : List String) :
    Yields ⟨decoder, ready⟩ reads (ready.map .payload ++ items) := by
  induction ready with
  | nil => exact yields
  | cons data ready ih => exact .handed rfl ih

theorem yields_ending (decoder : Decoder) (ending : Ending) :
    Yields ⟨decoder, []⟩ ending.reads ending.items := by
  cases ending with
  | complete => exact .ended rfl
  | failed error later => exact .failed rfl

/-! ### A whole body -/

theorem payloads_append (first second : List Event) :
    payloads (first ++ second) = payloads first ++ payloads second := by
  simp [payloads]

/-- Chunk after chunk, the payloads of the events they complete are handed on, and then the ending. -/
theorem yields_chunks (decoder : Decoder) (chunks : List (List UInt8)) (ending : Ending) :
    Yields ⟨decoder, []⟩ (chunks.map .chunk ++ ending.reads)
      ((payloads (decoder.feedAll chunks).2).map .payload ++ ending.items) := by
  induction chunks generalizing decoder with
  | nil => exact yields_ending decoder ending
  | cons chunk chunks ih =>
    rw [Decoder.feed_all_cons, payloads_append, List.map_append, List.append_assoc]
    exact .of_same_pull (next?_chunk decoder chunk _) ((ih (decoder.feed chunk).1).ready _)

/-- A limit that the items do not exceed cuts nothing off. -/
theorem Yields.itemsWithin_eq (yields : body.Yields reads items) {limit : Nat}
    (enough : items.length ≤ limit) : body.itemsWithin reads limit = items := by
  induction yields generalizing limit with
  | ended pulled =>
    cases limit with
    | zero => rfl
    | succ limit => simp only [itemsWithin, pulled]
  | failed pulled =>
    cases limit with
    | zero => simp at enough
    | succ limit => simp only [itemsWithin, pulled]
  | handed pulled others ih =>
    cases limit with
    | zero => simp at enough
    | succ limit => simp only [itemsWithin, pulled, ih (Nat.le_of_succ_le_succ enough)]

/-- What a body yields is determined by what is read. -/
theorem Yields.unique {others : List Item} (yields : body.Yields reads items)
    (also : body.Yields reads others) : items = others := by
  calc items = body.itemsWithin reads (items.length + others.length) :=
        (yields.itemsWithin_eq (Nat.le_add_right ..)).symm
    _ = others := also.itemsWithin_eq (Nat.le_add_left ..)

end Body

/-! ### Events take lines, and lines take bytes -/

theorem length_cutLinesFrom_le (line : List UInt8) (lines : List (List UInt8)) (bytes : List UInt8) :
    (cutLinesFrom line lines bytes).1.length ≤ lines.length + bytes.length := by
  induction bytes generalizing line lines with
  | nil => simp [cutLinesFrom]
  | cons b bytes ih =>
    rw [cutLinesFrom]
    split
    · have later := ih [] (line.reverse :: lines)
      simp only [List.length_cons] at later ⊢
      omega
    · have later := ih (b :: line) lines
      simp only [List.length_cons]
      omega

namespace Decoder

variable (decoder : Decoder)

theorem length_byteLines_le (lines : List (List UInt8)) :
    (decoder.byteLines lines).2.length ≤ lines.length := by
  induction lines generalizing decoder with
  | nil => exact Nat.le_refl _
  | cons line lines ih =>
    have one : (decoder.byteLine line).2.toList.length ≤ 1 := by
      cases (decoder.byteLine line).2 <;> simp
    have later := ih (decoder.byteLine line).1
    simp only [byte_lines_cons, List.length_append, List.length_cons]
    omega

/-- A fresh decoder completes no more events than it is fed bytes. -/
theorem length_feed_le (bytes : List UInt8) : (Decoder.new.feed bytes).2.length ≤ bytes.length := by
  rw [feed_eq]
  calc (Decoder.new.byteLines (cutLines bytes).1).2.length
      ≤ (cutLines bytes).1.length := length_byteLines_le _ _
    _ ≤ [].length + bytes.length := length_cutLinesFrom_le [] [] bytes
    _ = bytes.length := Nat.zero_add _

/-- Only an empty line ends an event. -/
theorem byteLine_silent {line : List UInt8} (filled : dropReturn line ≠ []) :
    (decoder.byteLine line).2 = none := by
  have text : (Text.decodeLossy (dropReturn line)).toList ≠ [] := Text.decodeLossy_ne_nil filled
  rw [byteLine, Decoder.line]
  split
  · contradiction
  · rfl
  · dsimp only
    repeat' split
    all_goals rfl

theorem byteLines_silent {lines : List (List UInt8)} (filled : ∀ line ∈ lines, dropReturn line ≠ []) :
    (decoder.byteLines lines).2 = [] := by
  induction lines generalizing decoder with
  | nil => rfl
  | cons line lines ih =>
    obtain ⟨first, rest⟩ := List.forall_mem_cons.mp filled
    rw [byte_lines_cons, byteLine_silent decoder first, ih _ rest]
    rfl

end Decoder

theorem sizeOfReads_chunks (chunks : List (List UInt8)) (others : List Read) :
    chunks.flatten.length ≤ sizeOfReads (chunks.map .chunk ++ others) := by
  induction chunks with
  | nil => exact Nat.zero_le _
  | cons chunk chunks ih =>
    simp only [List.flatten_cons, List.length_append, List.map_cons, List.cons_append, sizeOfReads]
    omega

/-- A body yields the payloads of the events that its bytes complete, and its ending. -/
theorem Body.yields_payloads (chunks : List (List UInt8)) (ending : Ending) :
    Body.new.Yields (chunks.map .chunk ++ ending.reads)
      ((payloads (Decoder.new.feed chunks.flatten).2).map .payload ++ ending.items) := by
  rw [← Decoder.feed_all_flatten Decoder.new (by simp [Decoder.new])]
  exact yields_chunks Decoder.new chunks ending

/-- The items of a body are all that it yields: there are no more than its limit allows. -/
theorem items_eq (chunks : List (List UInt8)) (ending : Ending) :
    items (chunks.map .chunk ++ ending.reads) =
      (payloads (Decoder.new.feed chunks.flatten).2).map .payload ++ ending.items := by
  refine (Body.yields_payloads chunks ending).itemsWithin_eq ?_
  have few : (payloads (Decoder.new.feed chunks.flatten).2).length ≤ chunks.flatten.length := by
    rw [payloads, List.length_map]
    exact Nat.le_trans (List.length_filter_le _ _) (Decoder.length_feed_le _)
  have size := sizeOfReads_chunks chunks ending.reads
  have last : ending.items.length ≤ 1 := by cases ending <;> simp [Ending.items]
  simp only [List.length_append, List.length_map]
  omega

/-- However a body is cut into chunks, its payload stream hands on the data of every event in it that is
a message, in their order, and then the failure if there is one; an answer of success hands on the same,
unless its status rules out a body. A chunk at the end that finishes no empty line adds nothing to what is
handed on: an event without its blank line is none. -/
theorem body_yields_messages (chunks : List (List UInt8)) (ending : Ending) :
    let reads := chunks.map .chunk ++ ending.reads
    let messages := (Decoder.new.feed chunks.flatten).2.filter (·.name = "message")
    let handed := messages.map (fun event => .payload event.data) ++ ending.items
    (∀ items, Body.new.Yields reads items ↔ items = handed) ∧
      (∀ code, isSuccess code = true →
        answer code reads = .ok (if hasBody code then handed else [])) ∧
      ∀ tail, (∀ line ∈ (cutLines (openLine chunks.flatten ++ tail)).1, dropReturn line ≠ []) →
        Body.new.Yields ((chunks ++ [tail]).map .chunk ++ ending.reads) handed := by
  intro reads messages handed
  have same : (payloads (Decoder.new.feed chunks.flatten).2).map .payload ++ ending.items = handed := by
    rw [payloads, List.map_map]
    rfl
  refine ⟨?_, ?_, ?_⟩
  · intro items
    constructor
    · intro yields
      exact yields.unique (same ▸ Body.yields_payloads chunks ending)
    · rintro rfl
      exact same ▸ Body.yields_payloads chunks ending
  · intro code success
    rw [answer, if_pos success, items_eq, same]
  · intro tail filled
    have kept : (Decoder.new.feed chunks.flatten).1.pending = openLine chunks.flatten :=
      Decoder.feed_pending _ _
    have silent : (Decoder.new.feed (chunks ++ [tail]).flatten).2 =
        (Decoder.new.feed chunks.flatten).2 := by
      rw [List.flatten_append, List.flatten_singleton, Decoder.feed_append,
        Decoder.feed_eq (Decoder.new.feed chunks.flatten).1, kept]
      simp only [Decoder.byteLines_silent _ filled, List.append_nil]
    have yields := Body.yields_payloads (chunks ++ [tail]) ending
    rwa [silent, same] at yields

/-- A chunk that completes two events, one of them no message, two chunks that complete none, and a
failure. The last event lacks its blank line, also after another chunk. -/
theorem two_messages_and_a_failure :
    let chunks := [Text.utf8 "event: ready\ndata: on\n\ndata: a\n\nda", [],
      Text.utf8 "ta: b\r\n\ndata: c\n"]
    let ending : Ending := .failed .closed [.chunk [lineFeed]]
    let handed : List Item := [.payload "a", .payload "b", .failure .closed]
    let tail := Text.utf8 "data: d\n"
    isSuccess 200 = true ∧ answer 200 (chunks.map .chunk ++ ending.reads) = .ok handed ∧
      (∀ line ∈ (cutLines (openLine chunks.flatten ++ tail)).1, dropReturn line ≠ []) ∧
      Body.new.Yields ((chunks ++ [tail]).map .chunk ++ ending.reads) handed := by
  intro chunks ending handed tail
  have same : ((Decoder.new.feed chunks.flatten).2.filter (·.name = "message")).map
      (fun event => Item.payload event.data) ++ ending.items = handed := by
    decide +kernel
  have filled : ∀ line ∈ (cutLines (openLine chunks.flatten ++ tail)).1, dropReturn line ≠ [] := by
    decide +kernel
  obtain ⟨-, answered, silent⟩ := body_yields_messages chunks ending
  rw [same] at answered silent
  exact ⟨rfl, answered 200 rfl, filled, silent tail filled⟩

end LiveLog.EventStream
