import LiveLog.Proofs.Connection.Delivery
import LiveLog.Proofs.Coordinator.Feeding

/-! What a closed viewer holds. Records come to a viewer in batches that were cut by a timer, by failures
of the stream, and at last by the close; and a host takes them when it likes. None of this shows in the
end: a viewer that is closed holds the records its connection has taken in. -/
namespace LiveLog

/-- The records brought by an event come before those of the events after it. -/
theorem decoded_cons (item : Sent) (rest : List Sent) :
    Record.decodeBatch (batched (item :: rest)) =
      item.event.records ++ Record.decodeBatch (batched rest) := by
  have joined : batched (item :: rest) = batched [item] ++ batched rest :=
    batched_append [item] rest
  have one : Record.decodeBatch (batched [item]) = item.event.records := by
    obtain ⟨moment, event⟩ := item
    cases event with
    | batch raw => simp [batched, StreamEvent.records]
    | opened => rfl
    | error message retryCount => rfl
  rw [joined, ← one]
  exact List.filterMap_append

theorem decoded_events (sent : List Sent) :
    (sent.map Sent.event).flatMap StreamEvent.records = Record.decodeBatch (batched sent) := by
  induction sent with
  | nil => rfl
  | cons item rest ih => rw [decoded_cons, ← ih]; rfl

theorem Buffer.append_append (buffer : Buffer) (first second : List Record) :
    (buffer.append first).append second = buffer.append (first ++ second) :=
  List.foldl_append.symm

variable {α : Type}

/-- A viewer appends the records of what it receives. -/
theorem Viewer.received_buffer [Scalar α] (viewer : Viewer α) (sent : List Sent) :
    (viewer.received sent).buffer =
      viewer.buffer.append (Record.decodeBatch (batched sent)) := by
  induction sent generalizing viewer with
  | nil => rfl
  | cons item rest ih =>
    rw [decoded_cons, ← Buffer.append_append, ← viewer.apply_buffer]
    exact ih (viewer.apply item.event)

namespace Service

variable {service : Service α} {config : Config α} {id : InstanceId} {entry : Instance α}
  {viewer : Viewer α} {watched : Watched}

/-- A viewer holds the records of the events taken from its connection, and its view is exact. -/
theorem Fed.buffer [Scalar α] (fed : Fed config id viewer watched) :
    viewer.buffer.records.toList = Record.decodeBatch (batched watched.past.delivered) ∧
      viewer.buffer.Exact := by
  obtain ⟨job, inputs, -, rfl, events⟩ := fed.history
  have empty : (Viewer.new job config.layout config.showDebug).buffer.Exact := rfl
  obtain ⟨records, exact⟩ := Viewer.fedAll_buffer empty inputs
  refine ⟨?_, exact⟩
  rw [records, Viewer.brought, events, decoded_events]
  rfl

/-- The raw records that the connection of an open instance has taken in, in the order of their
arrival. -/
def objects (service : Service α) (id : InstanceId) : List Json :=
  (service.coordinator.instance? id).elim [] fun entry =>
    (service.past entry.channel).takenIn.flatMap rawRecords

theorem objects_of_open (found : service.coordinator.instance? id = some entry)
    (serves : service.traffic.Serves id.text entry.channel watched) :
    service.objects id = watched.past.takenIn.flatMap rawRecords := by
  rw [objects, found, ← Traffic.watched?_past serves.present]
  rfl

variable [Scalar α]

/-- Closing hands back a viewer with every record its connection has taken in. Some were applied before,
some wait in the channel, and the rest come with the final flush. -/
private theorem handed_back (paired : service.Paired) (fed : (service.alone id).Fed config id)
    (found : service.coordinator.instance? id = some entry) (now : Nat) :
    ∃ closed, (service.coordinator.close id now).2 = some closed ∧
      closed.buffer.records.toList = Record.decodeBatch (service.objects id) ∧
      closed.buffer.filter = entry.viewer.buffer.filter ∧ closed.buffer.Exact := by
  obtain ⟨url, moves, serves⟩ := paired.serves found
  have balanced := Watched.balanced_run service.traffic.table.settings
    (Watched.fresh_balanced url) moves
  generalize (Watched.fresh url).run service.traffic.table.settings moves = watched
    at serves balanced
  -- The close sends what is gathered, so the batches sent by then account for all that was taken in.
  have sent : batched (watched.past.delivered ++ (watched.connection.close now).outbox) =
      service.objects id := by
    have ended := Watched.balanced_sent
      (Watched.balanced_after service.traffic.table.settings balanced (.close now))
    rw [objects_of_open found serves]
    exact (List.append_nil _).symm.trans ended
  have held := alone_open found serves
  obtain ⟨records, exact⟩ := (fed _ _ held).buffer
  have handed := closed_viewer paired id now
  rw [held] at handed
  obtain ⟨kept, filter⟩ := entry.viewer.buffer.append_keeps
    (Record.decodeBatch (batched (watched.connection.close now).outbox))
  refine ⟨_, handed, ?_⟩
  simp only [Viewer.received_buffer]
  refine ⟨?_, filter, Buffer.append_exact exact _⟩
  rw [kept, records, ← sent, batched_append]
  exact List.filterMap_append.symm

/-- Whatever closing hands back, in any run, has the records its connection took in. -/
private theorem records_handed_back {acts : List (Act α)}
    (handed : (((start config).run acts).coordinator.close id now).2 = some closed) :
    closed.buffer.records.toList = Record.decodeBatch (((start config).run acts).objects id) ∧
      closed.buffer.Exact := by
  cases found : ((start config).run acts).coordinator.instance? id with
  | none => simp [Coordinator.close, found] at handed
  | some entry =>
    obtain ⟨same, handedToo, records, -, exact⟩ := handed_back
      (paired_run (start_paired config) acts) (fed_run config acts id) found now
    obtain rfl : closed = same := Option.some.inj (handed.symm.trans handedToo)
    exact ⟨records, exact⟩

/-- What closing an open viewer hands back. -/
structure HandsBack (service : Service α) (id : InstanceId) (now : Nat) (viewer closed : Viewer α) :
    Prop where
  before : service.coordinator.viewer? id = some viewer
  handed : (service.coordinator.close id now).2 = some closed
  /-- Its records are the raw records its connection took in, decoded, in their order and each once, but
  for those that cannot be decoded. Its view is what its filter admits of them. -/
  answers : closed.buffer.AnswersFrom
    ((service.objects id).filterMap fun raw => (Record.decode raw).toOption) viewer.buffer.filter
  /-- Any other viewer that was closed, in this run or another, over the same raw records holds the same
  records; under the same filter the two buffers are equal. -/
  alike : ∀ (settings : Config α) (history : List (Act α)) (name : InstanceId) (moment : Nat)
    (another : Viewer α),
    let other := (start settings).run history
    (other.coordinator.close name moment).2 = some another →
    other.objects name = service.objects id →
    another.buffer.records = closed.buffer.records ∧
      (another.buffer.filter = closed.buffer.filter → another.buffer = closed.buffer)

/-- What a closed viewer holds depends neither on how its records were divided nor on when the host
pumped. In every run, closing an open viewer hands back one that answers from the raw records its
connection took in. -/
theorem closed_viewer_holds_objects (config : Config α) (acts : List (Act α)) (id : InstanceId)
    (now : Nat) (opened : ((start config).run acts).coordinator.isOpen id = true) :
    ∃ viewer closed, HandsBack ((start config).run acts) id now viewer closed := by
  obtain ⟨entry, found⟩ := Option.isSome_iff_exists.mp opened
  obtain ⟨closed, handed, records, filter, exact⟩ := handed_back
    (paired_run (start_paired config) acts) (fed_run config acts id) found now
  refine ⟨entry.viewer, closed, Coordinator.viewer?_of_open found, handed, ?answers, ?alike⟩
  case answers =>
    have answers := Buffer.exact_answers exact
    rw [records, filter] at answers
    exact answers
  case alike =>
    intro settings history name moment another other handedToo same
    obtain ⟨recordsToo, exactToo⟩ := records_handed_back handedToo
    have alike : another.buffer.records = closed.buffer.records := by
      apply Array.toList_inj.mp
      rw [recordsToo, records, same]
    exact ⟨alike, Buffer.eq_of_exact exactToo exact alike⟩

/-- One viewer is closed whose connection took in two raw records: one that was pumped, and one that is
still gathered and has no message. -/
theorem closed_after_two_objects :
    let service := (start Config.standard).run
      [.openViewer "build" "b" 0, .task (.ofJob "build") 0 (.proceed 0),
        .task (.ofJob "build") 0 (.receive .accepted), .task (.ofJob "build") 0 (.proceed 1),
        .task (.ofJob "build") 0 (.proceed 1),
        .task (.ofJob "build") 0 (.receive (.payload "[\x7b\"message\":\"m\",\"line\":1\x7d]")),
        .task (.ofJob "build") 0 (.proceed 2), .task (.ofJob "build") 0 .wake,
        .task (.ofJob "build") 0 (.proceed 20), .pump 21,
        .task (.ofJob "build") 0 (.receive (.payload "\x7b\x7d")),
        .task (.ofJob "build") 0 (.proceed 22)]
    (service.objects (.ofJob "build")).length = 2 ∧
      (service.coordinator.viewer? (.ofJob "build")).map (·.buffer.total) = some 1 ∧
      service.coordinator.isOpen (.ofJob "build") = true ∧
      ∃ viewer closed : Viewer Rat, HandsBack service (.ofJob "build") 30 viewer closed :=
  ⟨by decide +kernel, by decide +kernel, by decide +kernel,
    closed_viewer_holds_objects .standard _ _ _ (by decide +kernel)⟩

end Service
end LiveLog
