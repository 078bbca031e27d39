import LiveLog.Proofs.Json
import LiveLog.Record

/-! Which raw records are decoded and what they become. A message and a line number are all that is asked
for; level and time have a value whatever stands in their place, and no other member is looked at. A batch
is decoded item by item, so that those which cannot be decoded leave no trace. -/
namespace LiveLog.Record
open Json (Holds Lacks)

/-- The members decoding looks at. -/
def fieldNames : List String :=
  ["message", "line", "sequence", "level", "timestamp"]

/-- The number that counts as the line number of an object: that of its `line`, whatever it is, or else of
its `sequence`. -/
def HasLine (members : List (String × Json)) (number : Json) : Prop :=
  Holds members "line" number ∨ Lacks members "line" ∧ Holds members "sequence" number

/-- A field that may be left out: what its string is read as, or a default where it holds no string. -/
def ReadOr {α : Type} (members : List (String × Json)) (name : String) (read : String → α) (default : α)
    (result : α) : Prop :=
  (∀ text, Holds members name (.string text) → result = read text) ∧
    ((∀ text, ¬ Holds members name (.string text)) → result = default)

/-- A raw record tells of a record: it is an object with that message, with the number of the record as its
line number, and with its level and time, where these are left out or no strings with the defaults. -/
def Decodes (raw : Json) (record : Record) : Prop :=
  ∃ members, raw = .object members ∧
    Holds members "message" (.string record.message) ∧
    HasLine members (.number (.integer record.sequence.toNat)) ∧
    ReadOr members "level" Level.parse .info record.level ∧
    ReadOr members "timestamp" Timestamp.timeOfDay "" record.timestamp

variable {members : List (String × Json)}

/-! ### One record -/

theorem text_member_iff {name text : String} :
    (Json.member? name members >>= Json.text?) = some text ↔ Holds members name (.string text) := by
  simp only [Option.bind_eq_bind, Option.bind_eq_some_iff, Json.text?_eq_some_iff, exists_eq_right,
    Json.member?_eq_some_iff]

theorem lineMember?_iff {number : Json} :
    lineMember? members = some number ↔ HasLine members number := by
  simp only [lineMember?, HasLine, Option.orElse_eq_orElse, Option.orElse_eq_or, Option.or_eq_some_iff,
    Json.member?_eq_some_iff, Json.member?_eq_none_iff]

theorem line_word_iff {n : UInt64} :
    (lineMember? members >>= Json.word?) = some n ↔ HasLine members (.number (.integer n.toNat)) := by
  simp only [Option.bind_eq_bind, Option.bind_eq_some_iff, Json.word?_eq_some_iff, exists_eq_right,
    lineMember?_iff]

theorem readOr_iff {α : Type} {name : String} {read : String → α} {default result : α} :
    result = (Json.member? name members >>= Json.text?).elim default read ↔
      ReadOr members name read default result := by
  cases found : Json.member? name members >>= Json.text? with
  | none =>
    have missing (text : String) : ¬ Holds members name (.string text) := by
      rw [← text_member_iff, found]
      simp
    constructor
    · intro same
      exact ⟨fun text held => absurd held (missing text), fun _ => same⟩
    · intro told
      exact told.2 missing
  | some text =>
    have held := text_member_iff.mp found
    constructor
    · rintro rfl
      refine ⟨fun other heldToo => ?_, fun missing => absurd held (missing text)⟩
      rw [← text_member_iff, found, Option.some.injEq] at heldToo
      rw [heldToo, Option.elim_some]
    · intro told
      exact told.1 text held

/-- Decoding succeeds exactly with the record the members tell of. -/
theorem decode_eq_ok_iff (raw : Json) (record : Record) :
    decode raw = .ok record ↔ Decodes raw record := by
  cases raw with
  | object members =>
    obtain ⟨timestamp, message, level, sequence⟩ := record
    have told : Decodes (.object members) ⟨timestamp, message, level, sequence⟩ ↔
        (Json.member? "message" members >>= Json.text?) = some message ∧
        (lineMember? members >>= Json.word?) = some sequence ∧
        level = (Json.member? "level" members >>= Json.text?).elim .info Level.parse ∧
        timestamp = (Json.member? "timestamp" members >>= Json.text?).elim "" Timestamp.timeOfDay := by
      rw [text_member_iff, line_word_iff, readOr_iff, readOr_iff]
      simp [Decodes]
    rw [told, decode]
    cases Json.member? "message" members >>= Json.text? with
    | none => simp [bind, Except.bind]
    | some text =>
      cases lineMember? members >>= Json.word? with
      | none => simp [bind, Except.bind]
      | some n =>
        constructor
        · intro made
          cases made
          exact ⟨rfl, rfl, rfl, rfl⟩
        · rintro ⟨same, number, rfl, rfl⟩
          cases same
          cases number
          rfl
  | null | bool | number | string | array => simp [decode, Decodes]

/-- Only the message and the line number decide whether decoding succeeds. -/
theorem decode_succeeds_iff (raw : Json) :
    (∃ record, decode raw = .ok record) ↔
      ∃ members message, ∃ line : UInt64, raw = .object members ∧
        Holds members "message" (.string message) ∧
        HasLine members (.number (.integer line.toNat)) := by
  constructor
  · rintro ⟨record, made⟩
    obtain ⟨members, object, message, line, -, -⟩ := (decode_eq_ok_iff raw record).mp made
    exact ⟨members, record.message, record.sequence, object, message, line⟩
  · rintro ⟨members, message, line, object, held, numbered⟩
    let level := (Json.member? "level" members >>= Json.text?).elim .info Level.parse
    let timestamp := (Json.member? "timestamp" members >>= Json.text?).elim "" Timestamp.timeOfDay
    refine ⟨⟨timestamp, message, level, line⟩, (decode_eq_ok_iff _ _).mpr ?_⟩
    exact ⟨members, object, held, numbered, readOr_iff.mp rfl, readOr_iff.mp rfl⟩

/-- Members under other names may be left out. -/
theorem decode_filter (members : List (String × Json)) :
    decode (.object (members.filter fun member => member.1 ∈ fieldNames)) = decode (.object members) := by
  have same (name : String) (listed : name ∈ fieldNames) := Json.member?_filter listed members
  simp only [decode, lineMember?, same "message" (by decide), same "line" (by decide),
    same "sequence" (by decide), same "level" (by decide), same "timestamp" (by decide)]

/-! ### A batch -/

theorem decodeBatch_append (first second : List Json) :
    decodeBatch (first ++ second) = decodeBatch first ++ decodeBatch second :=
  List.filterMap_append

/-- The records of a batch are those of its decodings that succeed, in their order. -/
theorem decodeBatch_ok (raw : List Json) :
    (decodeBatch raw).map Except.ok = (raw.map decode).filter Except.isOk := by
  induction raw with
  | nil => rfl
  | cons item rest ih =>
    have first := decodeBatch_append [item] rest
    rw [List.singleton_append] at first
    rw [first, List.map_append, ih, List.map_cons, List.filter_cons, decodeBatch]
    cases made : decode item with
    | error cause => simp [made, Except.toOption, Except.isOk, Except.toBool]
    | ok record => simp [made, Except.toOption, Except.isOk, Except.toBool]

/-- A batch of items that cannot be decoded is empty. -/
theorem decodeBatch_malformed {raw : List Json}
    (malformed : ∀ item ∈ raw, ∀ record, decode item ≠ .ok record) : decodeBatch raw = [] := by
  rw [decodeBatch, List.filterMap_eq_nil_iff]
  intro item among
  cases made : decode item with
  | error cause => rfl
  | ok record => exact absurd made (malformed item among record)

/-- A raw record is decoded exactly if it is an object whose message is a string and whose line number is an
integer of 64 bits. The record has these two, and its level and time are what their strings are read as, or
their defaults. A written number is such an integer exactly if it has no sign, fraction or exponent and fits.
Members under other names do not matter. A batch becomes the records of the items that can be decoded, in
order: items that cannot be decoded may stand anywhere in it, and batches may be joined before or after. -/
theorem decoding_drops_exactly_malformed :
    (∀ raw, (∃ record, decode raw = .ok record) ↔
      ∃ members message, ∃ line : UInt64, raw = .object members ∧
        Holds members "message" (.string message) ∧
        HasLine members (.number (.integer line.toNat))) ∧
      (∀ raw record, decode raw = .ok record ↔ Decodes raw record) ∧
      (∀ negative whole fraction exponent (n : UInt64),
        Number.ofParts? negative whole fraction exponent = some (.integer n.toNat) ↔
          negative = false ∧ fraction = none ∧ exponent = none ∧
            Nat.ofDigitChars 10 whole 0 = n.toNat) ∧
      (∀ members, decode (.object (members.filter fun member => member.1 ∈ fieldNames)) =
        decode (.object members)) ∧
      (∀ raw, (decodeBatch raw).map Except.ok = (raw.map decode).filter Except.isOk) ∧
      (∀ before malformed after, (∀ item ∈ malformed, ∀ record, decode item ≠ .ok record) →
        decodeBatch (before ++ malformed ++ after) = decodeBatch (before ++ after)) ∧
      ∀ first second, decodeBatch (first ++ second) = decodeBatch first ++ decodeBatch second := by
  refine ⟨decode_succeeds_iff, decode_eq_ok_iff, Number.ofParts?_eq_word_iff, decode_filter, decodeBatch_ok, ?_,
    decodeBatch_append⟩
  intro before malformed after refused
  rw [decodeBatch_append, decodeBatch_append, decodeBatch_malformed refused, List.append_nil,
    decodeBatch_append]

/-- Between two records stand one whose `line` is null, so that its `sequence` does not count, and one whose
line number is written with a fraction. -/
theorem malformed_items_leave_no_trace :
    let first : Json := .object [("message", .string "a"), ("line", .number (.integer 1))]
    let unnumbered : Json :=
      .object [("message", .string "b"), ("line", .null), ("sequence", .number (.integer 2))]
    let scaled : Json := .object [("message", .string "c"), ("line", .number (.real 3))]
    let last : Json := .object [("sequence", .number (.integer 4)), ("level", .number (.integer 1)),
      ("host", .null), ("timestamp", .string "2025-03-04T12:34:56.789Z"), ("message", .string "d")]
    (∀ item ∈ [unnumbered, scaled], ∀ record, decode item ≠ .ok record) ∧
      decodeBatch ([first] ++ [unnumbered, scaled] ++ [last]) = decodeBatch ([first] ++ [last]) ∧
      decodeBatch ([first] ++ [last]) = [⟨"", "a", .info, 1⟩, ⟨"12:34:56.7", "d", .info, 4⟩] := by
  intro first unnumbered scaled last
  have without_number : decode unnumbered = .error (.missingField .line) := rfl
  have with_fraction : decode scaled = .error (.missingField .line) := rfl
  have refused : ∀ item ∈ [unnumbered, scaled], ∀ record, decode item ≠ .ok record := by
    simp [without_number, with_fraction]
  obtain ⟨-, -, -, -, -, inserted, -⟩ := decoding_drops_exactly_malformed
  exact ⟨refused, inserted [first] [unnumbered, scaled] [last] refused, by decide +kernel⟩

end LiveLog.Record
