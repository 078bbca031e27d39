import LiveLog.Proofs.EventStream.Chunking
import LiveLog.Proofs.Text.Utf8
import Mathlib.Data.List.Forall2

/-! Decoding a stream undoes writing it. There are many ways to write an event: with comments and with
fields that mean nothing here, with the default name left out, and with each line ended in one of two
ways. Whatever way is chosen for each of them, events are read back as they were, in their order. -/
namespace LiveLog.EventStream

open Text (utf8)

/-! ### Writing events -/

/-- The two ways to end a line. -/
inductive LineEnd where
  | feed
  | returnFeed

def LineEnd.bytes : LineEnd → List UInt8
  | .feed => [lineFeed]
  | .returnFeed => [carriageReturn, lineFeed]

/-- A line of an event: its name, a line of its data, or one that is put in. -/
inductive Line where
  | name (name : String)
  | data (line : String)
  | aside (text : String)

def Line.text : Line → String
  | .name called => "event: " ++ called
  | .data part => "data: " ++ part
  | .aside other => other

def Line.name? : Line → Option String
  | .name called => some called
  | _ => none

def Line.data? : Line → Option String
  | .data part => some part
  | _ => none

/-- A line has no effect if it is a comment, or a field other than name and data. -/
def Idle (line : List Char) : Prop :=
  line.head? = some ':' ∨
    line ≠ [] ∧ line.takeWhile (· ≠ ':') ≠ "event".toList ∧ line.takeWhile (· ≠ ':') ≠ "data".toList

instance (line : List Char) : Decidable (Idle line) :=
  inferInstanceAs (Decidable (_ ∨ _))

/-- What may be put in. A carriage return that ends the text may be taken for a part of the line's end,
and the line has no effect without it either. -/
structure Aside (text : String) : Prop where
  whole : '\n' ∉ text.toList
  idle : Idle text.toList
  idle_cut : text.toList.getLast? = some '\r' → Idle text.toList.dropLast

/-- A text fits on a line that may be ended in either way. -/
structure Fits (text : List Char) : Prop where
  whole : '\n' ∉ text
  clear : text.getLast? ≠ some '\r'

theorem Fits.append {label text : List Char} (labelFits : Fits label) (fits : Fits text) :
    Fits (label ++ text) where
  whole := by simp [labelFits.whole, fits.whole]
  clear := by
    rw [List.getLast?_append]
    cases last : text.getLast? with
    | none => simpa using labelFits.clear
    | some c => simpa [last] using fits.clear

/-- The lines of the data. -/
def Event.dataLines (event : Event) : List String :=
  (event.data.toList.splitOn '\n').map String.ofList

/-- Neither the name nor a line of the data ends with a carriage return, and the name is one line. -/
structure Event.Writable (event : Event) : Prop where
  name_fits : Fits event.name.toList
  data_clear : ∀ line ∈ event.dataLines, line.toList.getLast? ≠ some '\r'

/-- The event as it is read: an empty name is the default one. -/
def Event.readBack (event : Event) : Event :=
  { event with name := if event.name = "" then defaultName else event.name }

/-- The bytes of a line. -/
def ended (text : String) (lineEnd : LineEnd) : List UInt8 :=
  utf8 text ++ lineEnd.bytes

/-- An event as it is written: its lines, each with its end, and the end of the blank line after them. -/
structure Written where
  lines : List (Line × LineEnd)
  blank : LineEnd

def Written.bytes (written : Written) : List UInt8 :=
  written.lines.flatMap (fun (line, lineEnd) => ended line.text lineEnd) ++ ended "" written.blank

/-- A way to write an event. Lines of the three kinds stand in any order, as long as those of the data
are in theirs. -/
structure Written.Writes (written : Written) (event : Event) : Prop where
  /-- The name may be left out where none is read as the same. -/
  named : written.lines.filterMap (·.1.name?) = [event.name] ∨
    written.lines.filterMap (·.1.name?) = [] ∧ event.readBack.name = defaultName
  split : written.lines.filterMap (·.1.data?) = event.dataLines
  asides : ∀ text lineEnd, (.aside text, lineEnd) ∈ written.lines → Aside text

/-! ### Reading a line -/

theorem splitField_name (line : List Char) : (splitField line).1 = line.takeWhile (· ≠ ':') := by
  unfold splitField
  dsimp only
  split <;> rfl

namespace Decoder

variable (decoder : Decoder)

theorem line_name (name : String) :
    decoder.line ("event: " ++ name) = ({ decoder with name := some name }, none) := by
  simp [Decoder.line, splitField]

theorem line_data (value : String) :
    decoder.line ("data: " ++ value) =
      ({ decoder with data := decoder.data ++ [value] }, none) := by
  simp [Decoder.line, splitField]

theorem line_idle {text : String} (idle : Idle text.toList) :
    decoder.line text = (decoder, none) := by
  rcases idle with comment | ⟨filled, noName, noData⟩
  · obtain ⟨rest, parts⟩ := List.head?_eq_some_iff.mp comment
    simp only [Decoder.line, parts]
  · rw [← splitField_name] at noName noData
    rw [Decoder.line]
    split
    · contradiction
    · rfl
    · simp only [noName, noData, if_false]

end Decoder

/-! ### Reading the bytes of a line -/

section
variable (name : Option String) (data : List String) {text : String}

/-- The line feed of a line is its last byte, and what stands before it is read as its text. -/
private theorem ended_parts (whole : '\n' ∉ text.toList) {lineEnd : LineEnd}
    (clear : lineEnd = .feed → text.toList.getLast? ≠ some '\r') :
    ∃ bytes, ended text lineEnd = bytes ++ [lineFeed] ∧ lineFeed ∉ bytes ∧
      dropReturn bytes = utf8 text := by
  have unbroken : lineFeed ∉ utf8 text := by
    intro member
    obtain ⟨c, within, same⟩ := Text.mem_of_ascii_byte member (by decide)
    obtain rfl : c = '\n' := Char.toNat_inj.mp same
    exact whole within
  cases lineEnd with
  | feed =>
    refine ⟨utf8 text, rfl, unbroken, if_neg ?_⟩
    intro last
    obtain ⟨c, lastChar, same⟩ := Text.getLast_of_ascii_byte last (by decide)
    obtain rfl : c = '\r' := Char.toNat_inj.mp same
    exact clear rfl lastChar
  | returnFeed =>
    refine ⟨utf8 text ++ [carriageReturn], by simp [ended, LineEnd.bytes], ?_, by simp [dropReturn]⟩
    simpa [unbroken] using (by decide : lineFeed ≠ carriageReturn)

/-- A line is read as its text, unless it ends with a carriage return that the line feed takes away. -/
theorem feed_ended (whole : '\n' ∉ text.toList) {lineEnd : LineEnd}
    (clear : lineEnd = .feed → text.toList.getLast? ≠ some '\r') :
    (⟨[], name, data⟩ : Decoder).feed (ended text lineEnd) =
      (((⟨[], name, data⟩ : Decoder).line text).1,
        ((⟨[], name, data⟩ : Decoder).line text).2.toList) := by
  obtain ⟨bytes, parts, unbroken, plain⟩ := ended_parts whole clear
  have read : (⟨[], name, data⟩ : Decoder).byteLine bytes = (⟨[], name, data⟩ : Decoder).line text := by
    rw [Decoder.byteLine, plain, Text.decodeLossy_utf8]
  have kept := congrArg Prod.fst ((⟨[], name, data⟩ : Decoder).byte_line_pending [] bytes)
  rw [read] at kept
  have rest : openLine (bytes ++ [lineFeed]) = [] := open_line_after_feed bytes []
  rw [Decoder.feed_eq, parts, List.nil_append, cut_lines_ended unbroken, rest,
    Decoder.byte_lines_cons, read]
  exact Prod.ext kept.symm (List.append_nil _)

theorem feed_aside (aside : Aside text) (lineEnd : LineEnd) :
    (⟨[], name, data⟩ : Decoder).feed (ended text lineEnd) = (⟨[], name, data⟩, []) := by
  by_cases clear : lineEnd = .feed → text.toList.getLast? ≠ some '\r'
  · rw [feed_ended name data aside.whole clear, Decoder.line_idle _ aside.idle]
    rfl
  · -- The carriage return and the line feed are an end of the other kind, after a shorter line.
    obtain ⟨rfl, last⟩ : lineEnd = .feed ∧ text.toList.getLast? = some '\r' := by
      simpa using clear
    obtain ⟨shorter, parts⟩ := List.getLast?_eq_some_iff.mp last
    have spelled : ended text .feed = ended (String.ofList shorter) .returnFeed := by
      obtain rfl : String.ofList shorter ++ "\r" = text := String.toList_inj.mp (by simp [parts])
      rw [ended, Text.utf8_append, List.append_assoc]
      rfl
    have whole := aside.whole
    have idle := aside.idle_cut last
    rw [parts] at whole idle
    rw [spelled, feed_ended name data (by simpa using whole) (by simp),
      Decoder.line_idle _ (by simpa using idle)]
    rfl

/-- A line that is read as it was written. -/
def Line.Readable : Line → Prop
  | .name called => Fits called.toList
  | .data part => Fits part.toList
  | .aside other => Aside other

theorem feed_line {line : Line} (readable : line.Readable) (lineEnd : LineEnd) :
    (⟨[], name, data⟩ : Decoder).feed (ended line.text lineEnd) =
      (⟨[], line.name?.or name, data ++ line.data?.toList⟩, []) := by
  cases line with
  | name called =>
    have fits : Fits ("event: " ++ called).toList := by
      rw [String.toList_append]
      exact Fits.append ⟨by decide, by decide⟩ readable
    rw [Line.text, feed_ended name data fits.whole fun _ => fits.clear, Decoder.line_name]
    simp [Line.name?, Line.data?]
  | data part =>
    have fits : Fits ("data: " ++ part).toList := by
      rw [String.toList_append]
      exact Fits.append ⟨by decide, by decide⟩ readable
    rw [Line.text, feed_ended name data fits.whole fun _ => fits.clear, Decoder.line_data]
    simp [Line.name?, Line.data?]
  | aside other =>
    rw [Line.text, feed_aside name data readable]
    simp [Line.name?, Line.data?]

/-! ### Reading an event -/

/-- Lines leave the last name among them, and their data behind what there was. -/
theorem feed_lines {lines : List (Line × LineEnd)} (readable : ∀ entry ∈ lines, entry.1.Readable) :
    (⟨[], name, data⟩ : Decoder).feed
        (lines.flatMap fun (line, lineEnd) => ended line.text lineEnd) =
      (⟨[], (lines.filterMap (·.1.name?)).getLast?.or name, data ++ lines.filterMap (·.1.data?)⟩,
        []) := by
  induction lines generalizing name data with
  | nil => simpa using Decoder.feed_nil ⟨[], name, data⟩ (by simp)
  | cons entry lines ih =>
    obtain ⟨line, lineEnd⟩ := entry
    obtain ⟨readableFirst, readableRest⟩ := List.forall_mem_cons.mp readable
    rw [List.flatMap_cons, Decoder.feed_append, feed_line name data readableFirst, ih _ _ readableRest]
    cases line <;> simp [Line.name?, Line.data?, List.getLast?_cons]

end

/-- No line of the data has a line feed in it. -/
private theorem not_mem_of_mem_splitOn {text part : List Char} (member : part ∈ text.splitOn '\n') :
    '\n' ∉ part := by
  induction text generalizing part with
  | nil =>
    simp only [List.splitOn_nil, List.mem_singleton] at member
    simp [member]
  | cons c text ih =>
    rw [List.splitOn_cons_eq_if_modifyHead] at member
    split at member
    · rcases List.mem_cons.mp member with rfl | later
      · exact List.not_mem_nil
      · exact ih later
    · rename_i differs
      obtain ⟨first, rest, parts⟩ := List.exists_cons_of_ne_nil (List.splitOn_ne_nil '\n' text)
      rw [parts, List.modifyHead_cons, List.mem_cons] at member
      rw [parts] at ih
      rcases member with rfl | later
      · have fresh : '\n' ∉ first := ih List.mem_cons_self
        have other : '\n' ≠ c := by simpa using Ne.symm (by simpa using differs : c ≠ '\n')
        simpa using ⟨other, fresh⟩
      · exact ih (List.mem_cons_of_mem _ later)

theorem Written.Writes.readable {written : Written} {event : Event} (writes : written.Writes event)
    (writable : event.Writable) : ∀ entry ∈ written.lines, entry.1.Readable := by
  rintro ⟨line, lineEnd⟩ member
  cases line with
  | name called =>
    have named : called ∈ written.lines.filterMap (·.1.name?) :=
      List.mem_filterMap.mpr ⟨_, member, rfl⟩
    rcases writes.named with only | ⟨none_, -⟩
    · rw [only, List.mem_singleton] at named
      subst named
      exact writable.name_fits
    · simp [none_] at named
  | data part =>
    have among : part ∈ event.dataLines := by
      rw [← writes.split]
      exact List.mem_filterMap.mpr ⟨_, member, rfl⟩
    obtain ⟨chars, split, rfl⟩ := List.mem_map.mp among
    refine ⟨?_, writable.data_clear _ among⟩
    rw [String.toList_ofList]
    exact not_mem_of_mem_splitOn split
  | aside other => exact writes.asides other lineEnd member

/-- The lines of the data make up the data. -/
theorem intercalate_dataLines (event : Event) :
    String.intercalate "\n" event.dataLines = event.data := by
  apply String.toList_inj.mp
  rw [String.toList_intercalate, Event.dataLines, List.map_map]
  simp

/-- The blank line after the data of an event ends it. -/
theorem dispatch_dataLines (event : Event) {name : Option String}
    (same : (name.filter (· ≠ "")).getD defaultName = event.readBack.name) :
    (⟨[], name, event.dataLines⟩ : Decoder).dispatch = (Decoder.new, some event.readBack) := by
  have some_ : event.dataLines.isEmpty = false := by
    simp [Event.dataLines, List.splitOn_ne_nil]
  simp only [Decoder.dispatch, some_, Bool.false_eq_true, if_false, same, intercalate_dataLines]
  rfl

theorem feed_written {written : Written} {event : Event} (writes : written.Writes event)
    (writable : event.Writable) :
    Decoder.new.feed written.bytes = (Decoder.new, [event.readBack]) := by
  have blank (name : Option String) (data : List String) :
      (⟨[], name, data⟩ : Decoder).line "" = (⟨[], name, data⟩ : Decoder).dispatch := rfl
  rw [Written.bytes, Decoder.feed_append, Decoder.new,
    feed_lines none [] (writes.readable writable), feed_ended _ _ (by simp) (by simp), blank,
    List.nil_append, writes.split, dispatch_dataLines event]
  · rfl
  · rcases writes.named with only | ⟨none_, default⟩
    · rw [only, List.getLast?_singleton, Option.some_or, Option.filter_some, Event.readBack]
      by_cases empty : event.name = "" <;> simp [empty]
    · rw [none_]
      exact default.symm

/-- However each of some events is written, they are what a fresh decoder reads, in their order and
nothing else, and it is left fresh. Only an empty name is read as the default one. -/
theorem written_events_read_back (events : List Event) (writable : ∀ event ∈ events, event.Writable)
    (writings : List Written) (writes : List.Forall₂ Written.Writes writings events) :
    Decoder.new.feed (writings.flatMap Written.bytes) =
      (Decoder.new, events.map Event.readBack) := by
  induction writes with
  | nil => exact Decoder.feed_nil Decoder.new (by simp [Decoder.new])
  | cons first rest ih =>
    obtain ⟨writableFirst, writableRest⟩ := List.forall_mem_cons.mp writable
    rw [List.flatMap_cons, Decoder.feed_append, feed_written first writableFirst, ih writableRest]
    simp

/-- Three events written with a comment, an ignored field and ends of both kinds. One has an empty name,
and one has neither a line for its name nor any data. -/
theorem three_events_read_back :
    let events : List Event := [⟨"ready", "on"⟩, ⟨"", "a\n: b"⟩, ⟨"message", ""⟩]
    let writings : List Written :=
      [⟨[(.aside ":\r", .feed), (.name "ready", .returnFeed), (.data "on", .feed)], .returnFeed⟩,
        ⟨[(.data "a", .feed), (.name "", .feed), (.data ": b", .returnFeed), (.aside "id", .feed)],
          .feed⟩,
        ⟨[(.data "", .returnFeed)], .feed⟩]
    (∀ event ∈ events, event.Writable) ∧ List.Forall₂ Written.Writes writings events ∧
      writings.flatMap Written.bytes =
        utf8 ":\r\nevent: ready\r\ndata: on\n\r\ndata: a\nevent: \ndata: : b\r\nid\n\ndata: \r\n\n" ∧
      Decoder.new.feed (writings.flatMap Written.bytes) =
        (Decoder.new, [⟨"ready", "on"⟩, ⟨"message", "a\n: b"⟩, ⟨"message", ""⟩]) := by
  intro events writings
  have writable : ∀ event ∈ events, event.Writable := by
    simp only [events, List.forall_mem_cons, List.not_mem_nil, false_implies, implies_true, and_true]
    exact ⟨⟨⟨by decide, by decide⟩, by decide⟩, ⟨⟨by decide, by decide⟩, by decide⟩,
      ⟨⟨by decide, by decide⟩, by decide⟩⟩
  have comment : Aside ":\r" := ⟨by decide, by decide, by decide⟩
  have field : Aside "id" := ⟨by decide, by decide, by decide⟩
  have writes : List.Forall₂ Written.Writes writings events := by
    refine .cons ⟨.inl rfl, by decide, ?_⟩ (.cons ⟨.inl rfl, by decide, ?_⟩
      (.cons ⟨.inr (by decide), by decide, by simp⟩ .nil))
    · rintro other lineEnd member
      obtain ⟨rfl, -⟩ : other = ":\r" ∧ lineEnd = .feed := by simpa using member
      exact comment
    · rintro other lineEnd member
      obtain ⟨rfl, -⟩ : other = "id" ∧ lineEnd = .feed := by simpa using member
      exact field
  exact ⟨writable, writes, by decide +kernel, written_events_read_back events writable writings writes⟩

end LiveLog.EventStream
