import LiveLog.Buffer
import Mathlib.Data.List.Basic
import Mathlib.Order.Bounds.Defs

/-! The view of a buffer is exact. Records that arrive lengthen the positions kept, and a change of the
filter computes them anew; both ways lead to the same positions. Every question asked of the view is
therefore answered as if the records were filtered on the spot. -/
namespace LiveLog.Buffer

/-- The records the filter admits, in the order of their arrival. No position defines it. -/
def view (buffer : Buffer) : List Record :=
  buffer.records.toList.filter buffer.filter.admits

/-- The positions kept are those a computation from the start finds. -/
def Exact (buffer : Buffer) : Prop :=
  buffer.shown = positions buffer.filter buffer.records

/-- A view has a record with a given line number at a position. -/
def ShowsLine (view : List Record) (line : UInt64) (position : Nat) : Prop :=
  ∃ record, view[position]? = some record ∧ record.sequence = line

variable {buffer : Buffer}

/-! ### Both ways of keeping the positions agree -/

theorem positions_to_list (filter : Filter) (records : Array Record) :
    (positions filter records).toList =
      (List.range records.size).filter fun i => (records[i]?).any filter.admits := by
  simp [positions]

/-- A record that arrives last adds its position, if it is admitted, and moves no other. -/
theorem positions_push (filter : Filter) (records : Array Record) (record : Record) :
    positions filter (records.push record) =
      if filter.admits record then (positions filter records).push records.size
      else positions filter records := by
  have older : (List.range records.size).filter
      (fun i => ((records.push record)[i]?).any filter.admits) =
        (positions filter records).toList := by
    rw [positions_to_list]
    apply List.filter_congr
    intro i member
    rw [Array.getElem?_push_lt (List.mem_range.mp member), Array.getElem?_eq_getElem]
  apply Array.toList_inj.mp
  rw [positions_to_list, Array.size_push, List.range_succ, List.filter_append, older]
  by_cases admitted : filter.admits record <;> simp [admitted]

theorem push_eq (buffer : Buffer) (record : Record) :
    buffer.push record =
      ⟨buffer.records.push record,
        if buffer.filter.admits record then buffer.shown.push buffer.records.size
        else buffer.shown, buffer.filter⟩ := rfl

/-- One record that arrives keeps the positions those of a computation from the start. -/
theorem push_exact (exact : buffer.Exact) (record : Record) : (buffer.push record).Exact := by
  simp only [Exact, push_eq, positions_push] at exact ⊢
  rw [exact]

theorem append_exact (exact : buffer.Exact) (batch : List Record) :
    (buffer.append batch).Exact := by
  induction batch generalizing buffer with
  | nil => exact exact
  | cons record batch ih => exact ih (push_exact exact record)

theorem append_keeps (buffer : Buffer) (batch : List Record) :
    (buffer.append batch).records.toList = buffer.records.toList ++ batch ∧
      (buffer.append batch).filter = buffer.filter := by
  induction batch generalizing buffer with
  | nil => simp [append]
  | cons record batch ih =>
    have later := ih (buffer.push record)
    simp only [push_eq, Array.toList_push, List.append_assoc, List.singleton_append] at later
    exact later

/-- Records that arrive lengthen the view by those admitted. -/
theorem view_append (buffer : Buffer) (batch : List Record) :
    (buffer.append batch).view = buffer.view ++ batch.filter buffer.filter.admits := by
  obtain ⟨records, filter⟩ := append_keeps buffer batch
  rw [view, records, filter, List.filter_append, view]

/-- Two buffers with exact positions are the same if they have the same records and the same filter. -/
theorem eq_of_exact {other : Buffer} (exact : buffer.Exact) (exactToo : other.Exact)
    (records : buffer.records = other.records) (filter : buffer.filter = other.filter) :
    buffer = other := by
  obtain ⟨_, shown, _⟩ := buffer
  obtain ⟨_, shownToo, _⟩ := other
  obtain rfl : _ = _ := records
  obtain rfl : _ = _ := filter
  rw [show shown = shownToo from Eq.trans exact exactToo.symm]

/-! ### Positions stand for records -/

/-- Every position kept leads to the record that the view has in its place. -/
theorem shown_records (exact : buffer.Exact) :
    buffer.shown.toList.map (buffer.records[·]?) = buffer.view.map some := by
  have every : (List.range buffer.records.size).map (buffer.records[·]?) =
      buffer.records.toList.map some := by
    apply List.ext_getElem <;> simp
  rw [exact, positions_to_list, view]
  calc ((List.range buffer.records.size).filter
        fun i => (buffer.records[i]?).any buffer.filter.admits).map (buffer.records[·]?)
      = ((List.range buffer.records.size).map (buffer.records[·]?)).filter
          (·.any buffer.filter.admits) :=
        (List.filter_map (f := (buffer.records[·]?)) (p := (·.any buffer.filter.admits))).symm
    _ = (buffer.records.toList.map some).filter (·.any buffer.filter.admits) := by rw [every]
    _ = (buffer.records.toList.filter buffer.filter.admits).map some := List.filter_map

theorem count_eq (exact : buffer.Exact) : buffer.count = buffer.view.length := by
  simpa [count] using congrArg List.length (shown_records exact)

/-- The positions kept ascend. -/
theorem shown_ascending (exact : buffer.Exact) : buffer.shown.toList.Pairwise (· < ·) := by
  rw [exact, positions_to_list]
  exact List.Pairwise.filter _ List.pairwise_lt_range

/-- The positions kept are those of the records admitted, and no others. -/
theorem mem_shown_iff (exact : buffer.Exact) (i : Nat) :
    i ∈ buffer.shown ↔
      ∃ record, buffer.records[i]? = some record ∧ buffer.filter.admits record = true := by
  rw [← Array.mem_toList_iff, exact, positions_to_list, List.mem_filter, List.mem_range,
    Option.any_eq_true]
  constructor
  · rintro ⟨_, admitted⟩
    exact admitted
  · rintro ⟨record, found, admitted⟩
    exact ⟨(Array.getElem?_eq_some_iff.mp found).1, record, found, admitted⟩

/-- The number told when a batch arrives is the number of its records that the filter admits. -/
theorem admitted_eq (exact : buffer.Exact) (batch : List Record) :
    buffer.admitted batch = batch.countP buffer.filter.admits := by
  rw [admitted, count_eq (append_exact exact batch), count_eq exact, view_append,
    List.length_append, List.countP_eq_length_filter]
  omega

/-! ### Questions asked of the view -/

theorem get_eq (exact : buffer.Exact) (position : Nat) :
    buffer.get? position = buffer.view[position]? := by
  have same := congrArg (·[position]?) (shown_records exact)
  simp only [List.getElem?_map, Array.getElem?_toList] at same
  rw [get?]
  cases found : buffer.shown[position]? with
  | none =>
    rw [found] at same
    simpa using same.symm
  | some i =>
    rw [found] at same
    cases shown : buffer.view[position]? with
    | none => simp [shown] at same
    | some record => simpa [shown] using same

/-- A part of the positions leads to the same part of the view. -/
private theorem extract_records (exact : buffer.Exact) (start stop : Nat) :
    (buffer.shown.extract start stop).toList.map (buffer.records[·]?) =
      ((buffer.view.take stop).drop start).map some := by
  rw [Array.toList_extract, List.extract_eq_take_drop, ← List.drop_take, List.map_drop,
    List.map_take, shown_records exact, List.map_drop, List.map_take]

/-- A part of the view is that part of the records admitted. -/
theorem slice_eq (exact : buffer.Exact) (start stop : Nat) :
    buffer.slice start stop = (buffer.view.take stop).drop start := by
  have collected := congrArg (List.filterMap id) (extract_records exact start stop)
  simp only [List.filterMap_map, Function.comp_def, id_eq, List.filterMap_some] at collected
  exact collected

/-- Looking for a line among the positions kept is looking for it among the records admitted. -/
theorem position_from_eq (exact : buffer.Exact) (line : UInt64) (start : Nat) :
    buffer.positionFrom? line start =
      ((buffer.view.drop start).findIdx? (·.sequence == line)).map (start + ·) := by
  have found := congrArg (List.findIdx? (·.any (·.sequence == line)))
    (extract_records exact start buffer.count)
  simp only [List.findIdx?_map, count_eq exact, List.take_length] at found
  have listed (part : Array Nat) :
      part.findIdx? (buffer.hasLine line) = part.toList.findIdx? (buffer.hasLine line) := by
    rw [← List.findIdx?_toArray, Array.toArray_toList]
  rw [positionFrom?, count_eq exact, listed]
  exact congrArg (Option.map (start + ·)) found

private theorem shows_line_iff (view : List Record) (line : UInt64) (start i : Nat) :
    ShowsLine view line (start + i) ↔
      ∃ bound : i < (view.drop start).length, ((view.drop start)[i].sequence == line) = true := by
  constructor
  · rintro ⟨record, found, same⟩
    obtain ⟨bound, here⟩ := List.getElem?_eq_some_iff.mp (List.getElem?_drop.trans found)
    exact ⟨bound, by simpa [here] using same⟩
  · rintro ⟨bound, same⟩
    exact ⟨_, List.getElem?_drop.symm.trans (List.getElem?_eq_getElem bound), by simpa using same⟩

/-- The position found is the first one from the start on whose record has the line. -/
theorem position_from_some_iff (exact : buffer.Exact) (line : UInt64) (start position : Nat) :
    buffer.positionFrom? line start = some position ↔
      IsLeast { p | start ≤ p ∧ ShowsLine buffer.view line p } position := by
  rw [position_from_eq exact, Option.map_eq_some_iff]
  constructor
  · rintro ⟨i, found, rfl⟩
    obtain ⟨bound, same, first⟩ := List.findIdx?_eq_some_iff_getElem.mp found
    refine ⟨⟨Nat.le_add_right .., (shows_line_iff buffer.view line start i).mpr ⟨bound, same⟩⟩, ?_⟩
    rintro p ⟨after, shows⟩
    obtain ⟨j, rfl⟩ := Nat.exists_eq_add_of_le after
    obtain ⟨_, alsoSame⟩ := (shows_line_iff buffer.view line start j).mp shows
    by_contra earlier
    exact first j (by omega) alsoSame
  · rintro ⟨⟨after, shows⟩, least⟩
    obtain ⟨i, rfl⟩ := Nat.exists_eq_add_of_le after
    obtain ⟨bound, same⟩ := (shows_line_iff buffer.view line start i).mp shows
    refine ⟨i, List.findIdx?_eq_some_iff_getElem.mpr ⟨bound, same, ?_⟩, rfl⟩
    intro j earlier alsoSame
    have shown := (shows_line_iff buffer.view line start j).mpr ⟨Nat.lt_trans earlier bound, alsoSame⟩
    have := least ⟨Nat.le_add_right start j, shown⟩
    omega

/-- No position is found where no record from the start on has the line. -/
theorem position_from_none_iff (exact : buffer.Exact) (line : UInt64) (start : Nat) :
    buffer.positionFrom? line start = none ↔ ∀ p, start ≤ p → ¬ ShowsLine buffer.view line p := by
  rw [position_from_eq exact, Option.map_eq_none_iff, List.findIdx?_eq_none_iff]
  constructor
  · intro missing p after shows
    obtain ⟨i, rfl⟩ := Nat.exists_eq_add_of_le after
    obtain ⟨bound, same⟩ := (shows_line_iff buffer.view line start i).mp shows
    exact absurd same (by simpa using missing _ (List.getElem_mem bound))
  · intro missing record member
    obtain ⟨i, bound, rfl⟩ := List.mem_iff_getElem.mp member
    have absent := missing (start + i) (Nat.le_add_right ..)
    rw [shows_line_iff] at absent
    exact Bool.eq_false_iff.mpr fun same => absent ⟨bound, same⟩

/-! ### Every history of a buffer -/

/-- What happens to a buffer: records arrive, or another filter is set. -/
inductive Change where
  | append (batch : List Record)
  | setFilter (filter : Filter)

/-- The buffer after a change. -/
def after (buffer : Buffer) : Change → Buffer
  | .append batch => buffer.append batch
  | .setFilter filter => buffer.setFilter filter

/-- The buffer after changes in their order. -/
def run (buffer : Buffer) (changes : List Change) : Buffer :=
  changes.foldl after buffer

/-- All records that arrived, batch after batch. -/
def arrived : List Change → List Record
  | [] => []
  | .append batch :: changes => batch ++ arrived changes
  | .setFilter _ :: changes => arrived changes

/-- The filter set last, or the one there was. -/
def inForce (filter : Filter) : List Change → Filter
  | [] => filter
  | .append _ :: changes => inForce filter changes
  | .setFilter filter :: changes => inForce filter changes

/-- A buffer answers every question as if these records were filtered on the spot by this filter. -/
structure AnswersFrom (buffer : Buffer) (records : List Record) (filter : Filter) : Prop where
  records_kept : buffer.records.toList = records
  filter_kept : buffer.filter = filter
  ascending : buffer.shown.toList.Pairwise (· < ·)
  /-- The positions kept are those of the records admitted, all within range. -/
  positions_kept : ∀ i, i ∈ buffer.shown ↔
    ∃ record, records[i]? = some record ∧ filter.admits record = true
  /-- Setting the same filter again changes nothing. -/
  rebuilt : buffer.setFilter filter = buffer
  /-- The number told for a batch is the number of its records that join the view. -/
  told : ∀ batch, buffer.admitted batch = batch.countP filter.admits
  counted : buffer.count = (records.filter filter.admits).length ∧ buffer.total = records.length
  fetched : ∀ position, buffer.get? position = (records.filter filter.admits)[position]?
  sliced : ∀ start stop, buffer.slice start stop =
    ((records.filter filter.admits).take (min stop buffer.count)).drop
      (min start (min stop buffer.count))
  /-- A line is found at the first position from the start on that shows it. -/
  found : ∀ line start position, buffer.positionFrom? line start = some position ↔
    IsLeast { p | start ≤ p ∧ ShowsLine (records.filter filter.admits) line p } position
  missed : ∀ line start, buffer.positionFrom? line start = none ↔
    ∀ p, start ≤ p → ¬ ShowsLine (records.filter filter.admits) line p
  found_from_top : ∀ line, buffer.position? line = buffer.positionFrom? line 0

theorem after_exact (exact : buffer.Exact) (change : Change) : (buffer.after change).Exact := by
  cases change with
  | append batch => exact append_exact exact batch
  | setFilter filter => rfl

/-- The positions kept are those of a computation from the start, whatever happened. -/
theorem run_exact (exact : buffer.Exact) (changes : List Change) : (buffer.run changes).Exact := by
  induction changes generalizing buffer with
  | nil => exact exact
  | cons change changes ih => exact ih (after_exact exact change)

theorem run_keeps (buffer : Buffer) (changes : List Change) :
    (buffer.run changes).records.toList = buffer.records.toList ++ arrived changes ∧
      (buffer.run changes).filter = inForce buffer.filter changes := by
  induction changes generalizing buffer with
  | nil => simp [run, arrived, inForce]
  | cons change changes ih =>
    have later := ih (buffer.after change)
    cases change with
    | append batch =>
      obtain ⟨records, filter⟩ := append_keeps buffer batch
      simp only [after, records, filter, List.append_assoc] at later
      exact later
    | setFilter filter => exact later

/-- A buffer with exact positions answers from the records it holds and its filter. -/
theorem exact_answers (exact : buffer.Exact) :
    buffer.AnswersFrom buffer.records.toList buffer.filter where
  records_kept := rfl
  filter_kept := rfl
  ascending := shown_ascending exact
  positions_kept i := by simpa using mem_shown_iff exact i
  rebuilt := by
    rw [setFilter, ← exact]
  told := admitted_eq exact
  counted := ⟨count_eq exact, rfl⟩
  fetched := get_eq exact
  sliced start stop := by
    have length : (buffer.view.take stop).length = min stop buffer.count := by
      rw [List.length_take, count_eq exact]
    rw [slice_eq exact, List.drop_eq_drop_min, length, List.take_eq_take_min, ← count_eq exact]
    rfl
  found := position_from_some_iff exact
  missed := position_from_none_iff exact
  found_from_top _ := rfl

/-- Whatever batches arrive and whatever filters are set, in any order, a buffer answers as if all
records that arrived were filtered on the spot by the filter set last. -/
theorem view_exact_in_every_history (filter : Filter) (changes : List Change) :
    ((new filter).run changes).AnswersFrom (arrived changes) (inForce filter changes) := by
  have started : (new filter).Exact := rfl
  have answers := exact_answers (run_exact started changes)
  obtain ⟨records, last⟩ := run_keeps (new filter) changes
  rw [records, last] at answers
  exact answers

end LiveLog.Buffer
