import LiveLog.EventStream
import Mathlib.Data.List.DropRight

/-! How a pushed stream is cut into pieces does not matter. What the decoder keeps between two pieces
is the line that is not finished and the event that is not, and both depend on the bytes alone. So
pieces fed one after the other complete the events that their bytes complete at once. -/
namespace LiveLog.EventStream

/-- The bytes after the last line feed: the line that is not finished. No cutting into lines defines
it. -/
def openLine (bytes : List UInt8) : List UInt8 :=
  bytes.rtakeWhile (· ≠ lineFeed)

theorem open_line_unfinished (bytes : List UInt8) : lineFeed ∉ openLine bytes := by
  intro member
  simpa using List.mem_rtakeWhile_imp member

/-- Bytes without a line feed are one line that is not finished. -/
theorem open_line_unbroken (unbroken : lineFeed ∉ bytes) : openLine bytes = bytes := by
  apply List.rtakeWhile_eq_self_iff.mpr
  intro b member
  simpa using ne_of_mem_of_not_mem member unbroken

/-- A line feed ends every line before it. -/
theorem open_line_after_feed (before after : List UInt8) :
    openLine (before ++ lineFeed :: after) = openLine after := by
  induction after using List.reverseRecOn with
  | nil => simp [openLine]
  | append_singleton after b ih =>
    have spelling : before ++ lineFeed :: (after ++ [b]) = (before ++ lineFeed :: after) ++ [b] := by
      simp
    simp only [openLine, spelling, List.rtakeWhile_concat] at ih ⊢
    rw [ih]

/-! ### Cutting into lines -/

/-- The lines already finished stand before those that follow. -/
private theorem cut_lines_finished (line : List UInt8) (lines : List (List UInt8))
    (bytes : List UInt8) :
    cutLinesFrom line lines bytes =
      (lines.reverse ++ (cutLinesFrom line [] bytes).1, (cutLinesFrom line [] bytes).2) := by
  induction bytes generalizing line lines with
  | nil => simp [cutLinesFrom]
  | cons b rest ih =>
    simp only [cutLinesFrom]
    split
    · rw [ih [] (line.reverse :: lines), ih [] [line.reverse]]
      simp
    · exact ih (b :: line) lines

/-- Bytes without a line feed lengthen the line they meet. -/
private theorem cut_lines_lengthen (unbroken : lineFeed ∉ more) (line rest : List UInt8) :
    cutLinesFrom line [] (more ++ rest) = cutLinesFrom (more.reverse ++ line) [] rest := by
  induction more generalizing line with
  | nil => rfl
  | cons b more ih =>
    simp only [List.mem_cons, not_or] at unbroken
    rw [List.cons_append, cutLinesFrom, if_neg (Ne.symm unbroken.1), ih unbroken.2]
    simp

/-- What cutting leaves is the line that is not finished. -/
private theorem cut_lines_from_rest (unbroken : lineFeed ∉ line) (bytes : List UInt8) :
    (cutLinesFrom line [] bytes).2 = openLine (line.reverse ++ bytes) := by
  induction bytes generalizing line with
  | nil => simpa [cutLinesFrom] using (open_line_unbroken (by simpa using unbroken)).symm
  | cons b rest ih =>
    by_cases ends : b = lineFeed
    · subst b
      rw [cutLinesFrom, if_pos rfl, cut_lines_finished, open_line_after_feed]
      simpa using ih List.not_mem_nil
    · rw [cutLinesFrom, if_neg ends, ih (by simpa using ⟨Ne.symm ends, unbroken⟩)]
      simp

theorem cut_lines_rest (bytes : List UInt8) : (cutLines bytes).2 = openLine bytes := by
  simpa [cutLines] using cut_lines_from_rest List.not_mem_nil bytes

/-- Two byte strings are cut into the lines that the first finishes, and then into those that the
second finishes behind the rest of the first. -/
private theorem cut_lines_from_append (unbroken : lineFeed ∉ line) (first second : List UInt8) :
    cutLinesFrom line [] (first ++ second) =
      ((cutLinesFrom line [] first).1 ++ (cutLines ((cutLinesFrom line [] first).2 ++ second)).1,
        (cutLines ((cutLinesFrom line [] first).2 ++ second)).2) := by
  induction first generalizing line with
  | nil =>
    have reversed : lineFeed ∉ line.reverse := by simpa using unbroken
    have lengthened := cut_lines_lengthen reversed [] second
    simp only [List.nil_append, cutLinesFrom, List.reverse_nil, cutLines, lengthened]
    simp
  | cons b first ih =>
    by_cases ends : b = lineFeed
    · subst b
      simp only [List.cons_append, cutLinesFrom, if_pos]
      rw [cut_lines_finished [] [line.reverse] (first ++ second),
        cut_lines_finished [] [line.reverse] first, ih List.not_mem_nil]
      simp
    · simp only [List.cons_append, cutLinesFrom, if_neg ends]
      exact ih (by simpa using ⟨Ne.symm ends, unbroken⟩)

theorem cut_lines_append (first second : List UInt8) :
    cutLines (first ++ second) =
      ((cutLines first).1 ++ (cutLines (openLine first ++ second)).1,
        (cutLines (openLine first ++ second)).2) := by
  rw [← cut_lines_rest first]
  exact cut_lines_from_append List.not_mem_nil first second

/-- Bytes without a line feed finish no line. -/
theorem cut_lines_unbroken (unbroken : lineFeed ∉ bytes) : cutLines bytes = ([], bytes) := by
  have lengthened := cut_lines_lengthen unbroken [] []
  simpa [cutLines, cutLinesFrom] using lengthened

/-- Bytes without a line feed, and one after them, are one line, and nothing is left. -/
theorem cut_lines_ended (unbroken : lineFeed ∉ bytes) :
    cutLines (bytes ++ [lineFeed]) = ([bytes], []) := by
  have lengthened := cut_lines_lengthen unbroken [] [lineFeed]
  simpa [cutLines, cutLinesFrom] using lengthened

/-! ### Decoding lines and pieces -/

variable {σ α β : Type}

/-- One input of a process that collects its output. -/
private def collect (step : σ → α → σ × List β) (collected : σ × List β) (input : α) :
    σ × List β :=
  ((step collected.1 input).1, collected.2 ++ (step collected.1 input).2)

/-- A process that collects its output adds to it and never looks at it. -/
private theorem fold_collects (step : σ → α → σ × List β) (state : σ) (output : List β)
    (inputs : List α) :
    inputs.foldl (collect step) (state, output) =
      ((inputs.foldl (collect step) (state, [])).1,
        output ++ (inputs.foldl (collect step) (state, [])).2) := by
  induction inputs generalizing state output with
  | nil => simp
  | cons input inputs ih =>
    simp only [List.foldl_cons, collect, List.nil_append]
    rw [ih (step state input).1 (output ++ (step state input).2),
      ih (step state input).1 (step state input).2, List.append_assoc]

namespace Decoder

variable (decoder : Decoder)

theorem byte_lines_cons (line : List UInt8) (lines : List (List UInt8)) :
    decoder.byteLines (line :: lines) =
      (((decoder.byteLine line).1.byteLines lines).1,
        (decoder.byteLine line).2.toList ++ ((decoder.byteLine line).1.byteLines lines).2) :=
  fold_collects (fun decoder bytes => ((byteLine decoder bytes).1, (byteLine decoder bytes).2.toList))
    (decoder.byteLine line).1 (decoder.byteLine line).2.toList lines

theorem feed_all_cons (chunk : List UInt8) (chunks : List (List UInt8)) :
    decoder.feedAll (chunk :: chunks) =
      (((decoder.feed chunk).1.feedAll chunks).1,
        (decoder.feed chunk).2 ++ ((decoder.feed chunk).1.feedAll chunks).2) :=
  fold_collects feed (decoder.feed chunk).1 (decoder.feed chunk).2 chunks

theorem byte_lines_append (first second : List (List UInt8)) :
    decoder.byteLines (first ++ second) =
      (((decoder.byteLines first).1.byteLines second).1,
        (decoder.byteLines first).2 ++ ((decoder.byteLines first).1.byteLines second).2) := by
  induction first generalizing decoder with
  | nil => rfl
  | cons line first ih =>
    simp only [List.cons_append, byte_lines_cons, ih, List.append_assoc]

/-- A finished line neither reads nor changes the bytes of the line that is not finished. -/
theorem byte_line_pending (pending line : List UInt8) :
    { decoder with pending }.byteLine line =
      ({ (decoder.byteLine line).1 with pending }, (decoder.byteLine line).2) := by
  simp only [byteLine, Decoder.line]
  split
  · simp only [dispatch]
    split <;> rfl
  · rfl
  · split
    · rfl
    · split <;> rfl

theorem byte_lines_pending (pending : List UInt8) (lines : List (List UInt8)) :
    { decoder with pending }.byteLines lines =
      ({ (decoder.byteLines lines).1 with pending }, (decoder.byteLines lines).2) := by
  induction lines generalizing decoder with
  | nil => rfl
  | cons line lines ih => simp only [byte_lines_cons, byte_line_pending, ih]

/-- A piece is decoded by its finished lines, and leaves the line that is not finished. -/
theorem feed_eq (chunk : List UInt8) :
    decoder.feed chunk =
      ({ (decoder.byteLines (cutLines (decoder.pending ++ chunk)).1).1 with
          pending := openLine (decoder.pending ++ chunk) },
        (decoder.byteLines (cutLines (decoder.pending ++ chunk)).1).2) := by
  rw [← cut_lines_rest]
  exact byte_lines_pending decoder _ _

@[simp] theorem feed_pending (chunk : List UInt8) :
    (decoder.feed chunk).1.pending = openLine (decoder.pending ++ chunk) := by
  rw [feed_eq]

/-- Two pieces complete the events that their bytes complete at once. -/
theorem feed_append (first second : List UInt8) :
    decoder.feed (first ++ second) =
      (((decoder.feed first).1.feed second).1,
        (decoder.feed first).2 ++ ((decoder.feed first).1.feed second).2) := by
  have pendingSame := decoder.feed_pending first
  have lines := cut_lines_append (decoder.pending ++ first) second
  have rest := cut_lines_rest (decoder.pending ++ first ++ second)
  rw [feed_eq (decoder.feed first).1, pendingSame]
  simp only [feed_eq decoder, ← List.append_assoc, lines, byte_lines_append, byte_lines_pending]
  rw [← rest, lines, cut_lines_rest]

/-- Nothing fed changes nothing, as long as no line waits to be finished. -/
theorem feed_nil (unfinished : lineFeed ∉ decoder.pending) : decoder.feed [] = (decoder, []) := by
  rw [feed_eq, List.append_nil, cut_lines_unbroken unfinished, open_line_unbroken unfinished]
  rfl

theorem feed_all_flatten (unfinished : lineFeed ∉ decoder.pending) (chunks : List (List UInt8)) :
    decoder.feedAll chunks = decoder.feed chunks.flatten := by
  induction chunks generalizing decoder with
  | nil => exact (decoder.feed_nil unfinished).symm
  | cons chunk chunks ih =>
    have stillUnfinished : lineFeed ∉ (decoder.feed chunk).1.pending := by
      rw [feed_pending]
      exact open_line_unfinished _
    rw [feed_all_cons, ih _ stillUnfinished, List.flatten_cons, feed_append]

/-- Whatever a decoder was fed, it keeps the bytes after the last line feed of all. -/
theorem pending_is_open_line (history : List (List UInt8)) :
    (Decoder.new.feedAll history).1.pending = openLine history.flatten := by
  rw [feed_all_flatten Decoder.new (by simp [Decoder.new]), feed_pending]
  rfl

end Decoder

/-- However bytes are cut into pieces, also inside a line end or inside a character, a decoder that was
fed before completes the same events in the same order and is left in the same state. At no time does
it keep a line feed: it keeps the line that is not finished. -/
theorem decoding_ignores_chunking (history chunks : List (List UInt8)) :
    (Decoder.new.feedAll history).1.feedAll chunks =
        (Decoder.new.feedAll history).1.feed chunks.flatten ∧
      (Decoder.new.feedAll history).1.pending = openLine history.flatten ∧
      ∀ chunk, lineFeed ∉ ((Decoder.new.feedAll history).1.feed chunk).1.pending := by
  have kept := Decoder.pending_is_open_line history
  have unfinished : lineFeed ∉ (Decoder.new.feedAll history).1.pending := by
    rw [kept]
    exact open_line_unfinished _
  refine ⟨Decoder.feed_all_flatten _ unfinished chunks, kept, ?_⟩
  intro chunk
  rw [Decoder.feed_pending]
  exact open_line_unfinished _

end LiveLog.EventStream
