import LiveLog.Filter

/-! All records of a job in arrival order, and the positions of those the filter admits. The positions
are kept up as records arrive and are computed anew when the filter changes. -/
namespace LiveLog

/-- The records, the view on them as positions in ascending order, and the filter of the view. -/
structure Buffer where
  records : Array Record
  shown : Array Nat
  filter : Filter

namespace Buffer

/-- A buffer without records. -/
def new (filter : Filter) : Buffer := ⟨#[], #[], filter⟩

/-- The number of records in the view. -/
def count (buffer : Buffer) : Nat := buffer.shown.size

/-- The number of records, shown or not. -/
def total (buffer : Buffer) : Nat := buffer.records.size

/-- The buffer with one more record at its end. -/
def push (buffer : Buffer) (record : Record) : Buffer :=
  let ⟨records, shown, filter⟩ := buffer
  let position := records.size
  ⟨records.push record, if filter.admits record then shown.push position else shown, filter⟩

/-- The buffer with a batch of records at its end. -/
def append (buffer : Buffer) (batch : List Record) : Buffer :=
  batch.foldl push buffer

/-- How many records of a batch join the view when it is appended. -/
def admitted (buffer : Buffer) (batch : List Record) : Nat :=
  (buffer.append batch).count - buffer.count

/-- The positions of the records a filter admits. -/
def positions (filter : Filter) (records : Array Record) : Array Nat :=
  (Array.range records.size).filter fun i => (records[i]?).any filter.admits

/-- The buffer under another filter. -/
def setFilter (buffer : Buffer) (filter : Filter) : Buffer :=
  { buffer with filter, shown := positions filter buffer.records }

/-- The record at a position of the view. -/
def get? (buffer : Buffer) (position : Nat) : Option Record := do
  buffer.records[← buffer.shown[position]?]?

/-- The records at the positions of the view from `start` up to `stop`, as far as there are any. -/
def slice (buffer : Buffer) (start stop : Nat) : List Record :=
  (buffer.shown.extract start stop).toList.filterMap (buffer.records[·]?)

/-- Whether the record at a position of the buffer has a given line number. -/
def hasLine (buffer : Buffer) (line : UInt64) (index : Nat) : Bool :=
  (buffer.records[index]?).any (·.sequence == line)

/-- The first position of the view, from a given one on, whose record has a given line number. -/
def positionFrom? (buffer : Buffer) (line : UInt64) (start : Nat) : Option Nat :=
  ((buffer.shown.extract start buffer.count).findIdx? (buffer.hasLine line)).map (start + ·)

/-- The first position of the view whose record has a given line number. -/
def position? (buffer : Buffer) (line : UInt64) : Option Nat :=
  buffer.positionFrom? line 0

end Buffer

end LiveLog
