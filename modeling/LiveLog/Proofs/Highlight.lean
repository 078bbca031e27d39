import LiveLog.Highlight
import LiveLog.Proofs.Text.Offsets
import Mathlib.Data.List.Chain
import Mathlib.Data.List.Induction

/-! A highlighted text is the text. Of the ranges that cover a byte the one that ranks highest decides how it is
painted, and the last of them where several rank as high; a byte that none covers keeps the base style. The cuts
of a text go on from one character boundary to the next and reach its end; within a cut all characters begin in
one style, and the next cut has another. So the runs have all characters in their order, each in the style of its
first byte, which is that of the range that decides about it. -/
namespace LiveLog.Highlight

/-- A range covers a byte. One that ends before it starts covers none. -/
def Covers (span : Span) (offset : Nat) : Prop :=
  span.start ≤ offset ∧ offset < span.stop

instance (span : Span) (offset : Nat) : Decidable (Covers span offset) :=
  inferInstanceAs (Decidable (_ ∧ _))

/-- A range decides about a byte: it covers the byte, and of the others that do none ranks higher and none
that comes later ranks as high. -/
def Decides (spans : List Span) (offset : Nat) (span : Span) : Prop :=
  ∃ earlier later, spans = earlier ++ span :: later ∧ Covers span offset ∧
    (∀ other ∈ earlier, Covers other offset → other.priority ≤ span.priority) ∧
    ∀ other ∈ later, Covers other offset → other.priority < span.priority

/-- The style a byte is to be shown in. -/
def ShownIn (base : Style) (spans : List Span) (offset : Nat) (style : Style) : Prop :=
  (∃ span, Decides spans offset span ∧ style = base.patch span.style) ∨
    (∀ span ∈ spans, ¬ Covers span offset) ∧ style = base

/-- What is on a byte after painting: the style and rank of the range that decides, or the base style in
the lowest rank. -/
inductive Painted (base : Style) (spans : List Span) (offset : Nat) : Style × Nat → Prop
  | decided {span : Span} (decides : Decides spans offset span) :
      Painted base spans offset (base.patch span.style, span.priority)
  | bare (uncovered : ∀ span ∈ spans, ¬ Covers span offset) : Painted base spans offset (base, 0)

theorem Painted.shownIn {base : Style} {spans : List Span} {offset : Nat} {paint : Style × Nat}
    (painted : Painted base spans offset paint) : ShownIn base spans offset paint.1 := by
  cases painted with
  | decided decides => exact .inl ⟨_, decides, rfl⟩
  | bare uncovered => exact .inr ⟨uncovered, rfl⟩

/-! ### One range more -/

section
variable {spans : List Span} {span next : Span} {offset : Nat}

/-- A range that comes last and ranks at least as high as all before it decides where it covers. -/
theorem decides_last (covers : Covers next offset)
    (highest : ∀ other ∈ spans, Covers other offset → other.priority ≤ next.priority) :
    Decides (spans ++ [next]) offset next :=
  ⟨spans, [], rfl, covers, highest, by simp⟩

/-- No range that covers a byte ranks higher than the one that decides. -/
theorem Decides.highest (decides : Decides spans offset span) :
    ∀ other ∈ spans, Covers other offset → other.priority ≤ span.priority := by
  obtain ⟨earlier, later, rfl, -, before, after⟩ := decides
  intro other member covers
  rcases List.mem_append.mp member with old | new
  · exact before other old covers
  · rcases List.mem_cons.mp new with rfl | newer
    · exact Nat.le_refl _
    · exact Nat.le_of_lt (after other newer covers)

/-- A range keeps deciding when one comes that does not cover the byte or ranks lower. -/
theorem Decides.keeps (decides : Decides spans offset span)
    (lower : Covers next offset → next.priority < span.priority) :
    Decides (spans ++ [next]) offset span := by
  obtain ⟨earlier, later, rfl, covers, before, after⟩ := decides
  refine ⟨earlier, later ++ [next], by simp, covers, before, ?_⟩
  intro other member coversToo
  rcases List.mem_append.mp member with old | new
  · exact after other old coversToo
  · obtain rfl := List.mem_singleton.mp new
    exact lower coversToo

/-- One range painted over a byte that was painted by the others. -/
theorem Painted.over {base : Style} {paint : Style × Nat} (painted : Painted base spans offset paint) :
    Painted base (spans ++ [next]) offset
      (if Covers next offset ∧ paint.2 ≤ next.priority then (base.patch next.style, next.priority)
      else paint) := by
  cases painted with
  | decided decides =>
    split
    · rename_i comes
      exact .decided (decides_last comes.1 fun other member covers =>
        Nat.le_trans (decides.highest other member covers) comes.2)
    · rename_i stays
      exact .decided (decides.keeps fun covers => by
        by_contra reaches
        exact stays ⟨covers, Nat.not_lt.mp reaches⟩)
  | bare uncovered =>
    split
    · rename_i comes
      exact .decided (decides_last comes.1 fun other member covers =>
        absurd covers (uncovered other member))
    · rename_i stays
      refine .bare fun other member covers => ?_
      rcases List.mem_append.mp member with old | new
      · exact uncovered other old covers
      · obtain rfl := List.mem_singleton.mp new
        exact stays ⟨covers, Nat.zero_le _⟩

end

/-! ### All bytes -/

/-- Bringing a range into the text does not change which of its bytes the range covers. -/
theorem mem_bytesOf_iff (span : Span) {size offset : Nat} (inside : offset < size) :
    ((bytesOf span size).1 ≤ offset ∧ offset < (bytesOf span size).2) ↔ Covers span offset := by
  simp only [bytesOf, Covers]
  omega

theorem getElem?_paintOver (base : Style) (painted : Array (Style × Nat)) (span : Span) (offset : Nat) :
    (paintOver base painted span)[offset]? =
      painted[offset]?.map fun paint =>
        if Covers span offset ∧ paint.2 ≤ span.priority then (base.patch span.style, span.priority)
        else paint := by
  change (painted.mapIdx _)[offset]? = _
  rw [Array.getElem?_mapIdx]
  cases found : painted[offset]? with
  | none => rfl
  | some paint =>
    obtain ⟨inside, -⟩ := Array.getElem?_eq_some_iff.mp found
    have covers := mem_bytesOf_iff span inside
    simp only [bytesOf] at covers
    simp only [Option.map_some, Bool.and_eq_true, decide_eq_true_eq, covers]

/-- Every byte of a text is painted. -/
theorem paint_painted (size : Nat) (base : Style) (spans : List Span) {offset : Nat}
    (inside : offset < size) :
    ∃ paint, (Highlight.paint size base spans)[offset]? = some paint ∧
      Painted base spans offset paint := by
  induction spans using List.reverseRecOn with
  | nil => exact ⟨(base, 0), by simp [Highlight.paint, inside], .bare (by simp)⟩
  | append_singleton spans next ih =>
    obtain ⟨paint, found, painted⟩ := ih
    refine ⟨_, ?_, painted.over⟩
    rw [Highlight.paint, List.foldl_append]
    change (paintOver base (Highlight.paint size base spans) next)[offset]? = _
    rw [getElem?_paintOver, found]
    rfl

/-! ### Cutting -/

open Text

/-- Cuts that divide a text from an offset on to its end. -/
inductive Divides (text : String) (styleAt : Nat → Style) : Nat → List Cut → Prop
  | done : Divides text styleAt text.utf8ByteSize []
  | cut {start stop : Nat} {rest : List Cut} (begins : isCharBoundary text start = true)
      (ends : isCharBoundary text stop = true) (some_ : start < stop)
      (one : ∀ offset, start ≤ offset → offset < stop → isCharBoundary text offset = true →
        styleAt offset = styleAt start)
      (differs : ∀ next ∈ rest.head?, next.style ≠ styleAt start)
      (tail : Divides text styleAt stop rest) :
      Divides text styleAt start (⟨start, stop, styleAt start⟩ :: rest)

/-- The characters of runs, each in the style of its run. -/
def shownChars (runs : List (String × Style)) : List (Char × Style) :=
  runs.flatMap fun run => run.1.toList.map (·, run.2)

/-- The characters of a text that begins at an offset, each in the style of its first byte. -/
def styledFrom (styleAt : Nat → Style) (offset : Nat) : List Char → List (Char × Style)
  | [] => []
  | c :: rest => (c, styleAt offset) :: styledFrom styleAt (offset + c.utf8Size) rest

variable {text : String} {styleAt : Nat → Style} {start : Nat} {parts : List Cut}

/-- The first of the cuts has the style of the offset they go on from. -/
theorem Divides.head_style (divides : Divides text styleAt start parts) :
    ∀ cut ∈ parts.head?, cut.style = styleAt start := by
  intro cut member
  cases divides with
  | done => simp at member
  | cut begins ends some_ one differs tail =>
    rw [List.head?_cons, Option.mem_some_iff] at member
    rw [← member]

/-- Cutting divides what is left of the text, and what lies before it from the last cut on. -/
theorem cutsFrom_divides (begins : isCharBoundary text start = true) {offset left : Nat}
    (before : start < offset) (size : offset + left = text.utf8ByteSize)
    (one : ∀ place, start ≤ place → place < offset → isCharBoundary text place = true →
      styleAt place = styleAt start) :
    Divides text styleAt start (cutsFrom text styleAt start offset left) := by
  induction left generalizing start offset with
  | zero =>
    obtain rfl : offset = text.utf8ByteSize := size
    exact .cut begins (isCharBoundary_end text) before one (by simp) .done
  | succ left ih =>
    rw [cutsFrom]
    split
    · rename_i goesOn
      rw [Bool.or_eq_true, decide_eq_true_eq, Bool.not_eq_true'] at goesOn
      refine ih begins (by omega) (by omega) ?_
      intro place after upTo boundary
      rcases Nat.lt_or_eq_of_le (Nat.le_of_lt_succ upTo) with earlier | rfl
      · exact one place after earlier boundary
      · exact goesOn.resolve_right (by simp [boundary])
    · rename_i stops
      rw [Bool.or_eq_true, decide_eq_true_eq, Bool.not_eq_true', not_or, Bool.not_eq_false] at stops
      have tail : Divides text styleAt offset (cutsFrom text styleAt offset (offset + 1) left) := by
        refine ih stops.2 (by omega) (by omega) ?_
        intro place after upTo boundary
        rw [show place = offset by omega]
      refine .cut begins stops.2 before one ?_ tail
      intro next first
      rw [tail.head_style next first]
      exact stops.1

/-- The cuts of a text divide it. -/
theorem cuts_divides (text : String) (spans : List Span) (base : Style) :
    Divides text (fun offset => ((paint text.utf8ByteSize base spans).getD offset (base, 0)).1) 0
      (cuts text spans base) := by
  unfold cuts
  split
  · rename_i empty
    rw [← empty]
    exact .done
  · rename_i left size
    refine cutsFrom_divides (isCharBoundary_zero text) Nat.zero_lt_one (by omega) ?_
    intro place _ first _
    rw [show place = 0 by omega]

/-! ### What the cuts show -/

/-- Every cut is between two character boundaries, and takes in at least one byte. -/
theorem Divides.boundaries (divides : Divides text styleAt start parts) :
    ∀ cut ∈ parts, isCharBoundary text cut.start = true ∧ isCharBoundary text cut.stop = true ∧
      cut.start < cut.stop := by
  induction divides with
  | done => simp
  | cut begins ends some_ one differs tail ih =>
    intro cut member
    rcases List.mem_cons.mp member with rfl | later
    · exact ⟨begins, ends, some_⟩
    · exact ih cut later

/-- Neighbouring cuts have different styles. -/
theorem Divides.differ (divides : Divides text styleAt start parts) :
    parts.IsChain (fun first second => first.style ≠ second.style) := by
  induction divides with
  | done => exact .nil
  | @cut start stop rest begins ends some_ one differs tail ih =>
    cases rest with
    | nil => exact .singleton _
    | cons next rest => exact .cons_cons (differs next rfl).symm ih

/-- A slice has the characters between two boundaries, and there are some. -/
theorem slice_between {stop : Nat} {before after : List Char} (parted : text.toList = before ++ after)
    (begins : start = byteSize before) (ends : isCharBoundary text stop = true) (some_ : start < stop) :
    ∃ part rest, after = part ++ rest ∧ stop = start + byteSize part ∧ part ≠ [] ∧
      slice text start stop = String.ofList part := by
  obtain ⟨upTo, rest, partedToo, rfl⟩ := (isCharBoundary_iff text stop).mp ends
  obtain rfl := begins
  obtain ⟨part, rfl, rfl⟩ := parts_between (parted.symm.trans partedToo) some_.le
  rw [byteSize_append] at some_ ⊢
  refine ⟨part, rest, rfl, rfl, ?_, slice_eq partedToo⟩
  rintro rfl
  simp at some_

theorem styledFrom_append (styleAt : Nat → Style) (offset : Nat) (first second : List Char) :
    styledFrom styleAt offset (first ++ second) =
      styledFrom styleAt offset first ++ styledFrom styleAt (offset + byteSize first) second := by
  induction first generalizing offset with
  | nil => simp [styledFrom]
  | cons c rest ih => simp [styledFrom, ih, Nat.add_assoc]

theorem map_fst_styledFrom (styleAt : Nat → Style) (offset : Nat) (chars : List Char) :
    (styledFrom styleAt offset chars).map (·.1) = chars := by
  induction chars generalizing offset with
  | nil => rfl
  | cons c rest ih => simp [styledFrom, ih]

/-- A character has the style of the offset that the characters before it lead to. -/
theorem getElem?_styledFrom (styleAt : Nat → Style) (offset : Nat) (before : List Char) (c : Char)
    (after : List Char) :
    (styledFrom styleAt offset (before ++ c :: after))[before.length]? =
      some (c, styleAt (offset + byteSize before)) := by
  induction before generalizing offset with
  | nil => simp [styledFrom]
  | cons first before ih => simp [styledFrom, ih, Nat.add_assoc]

/-- Characters that all begin in one style are shown in it. -/
theorem styledFrom_one {style : Style} {offset : Nat} {chars : List Char}
    (one : ∀ before c after, chars = before ++ c :: after →
      styleAt (offset + byteSize before) = style) :
    styledFrom styleAt offset chars = chars.map (·, style) := by
  induction chars generalizing offset with
  | nil => rfl
  | cons c rest ih =>
    have first := one [] c rest rfl
    rw [byteSize_nil, Nat.add_zero] at first
    rw [styledFrom, first, List.map_cons, ih]
    intro before next after parted
    have later := one (c :: before) next after (by rw [parted]; rfl)
    rwa [byteSize_cons, ← Nat.add_assoc] at later

/-- The runs of cuts have all characters from the offset on, each in the style of its first byte. -/
theorem Divides.shown (divides : Divides text styleAt start parts) {before after : List Char}
    (parted : text.toList = before ++ after) (place : start = byteSize before) :
    shownChars (parts.map fun cut => (slice text cut.start cut.stop, cut.style)) =
      styledFrom styleAt start after := by
  induction divides generalizing before after with
  | done =>
    have nothing : after = [] := by
      rw [← byteSize_eq_zero_iff]
      have whole := congrArg byteSize parted
      rw [byteSize_toList, byteSize_append] at whole
      omega
    subst nothing
    rfl
  | @cut start stop rest begins ends some_ one differs tail ih =>
    obtain ⟨part, beyond, rfl, rfl, -, sliced⟩ := slice_between parted place ends some_
    have inside : styledFrom styleAt start part = part.map (·, styleAt start) := by
      apply styledFrom_one
      intro front c back split_
      apply one
      · omega
      · rw [split_, byteSize_append, byteSize_cons]
        have := c.utf8Size_pos
        omega
      · rw [isCharBoundary_iff, place]
        exact ⟨before ++ front, c :: back ++ beyond, by simp [parted, split_], byteSize_append _ _ ▸ rfl⟩
    have onwards := @ih (before ++ part) beyond (by simp [parted]) (by simp [place])
    rw [styledFrom_append, inside, ← onwards, List.map_cons, shownChars, List.flatMap_cons, sliced,
      String.toList_ofList]
    rfl

/-! ### Runs -/

/-- The runs of a text have all its characters in their order, each in the style painted on its first
byte. -/
theorem shownChars_runs (text : String) (spans : List Span) (base : Style) :
    ∃ styleAt : Nat → Style,
      shownChars (runs text spans base) = styledFrom styleAt 0 text.toList ∧
      ∀ offset < text.utf8ByteSize, ShownIn base spans offset (styleAt offset) := by
  rw [runs]
  split
  · rename_i empty
    obtain rfl : spans = [] := List.isEmpty_iff.mp empty
    refine ⟨fun _ => base, ?_, fun _ _ => .inr ⟨by simp, rfl⟩⟩
    rw [styledFrom_one fun _ _ _ _ => rfl]
    simp [shownChars]
  · refine ⟨_, (cuts_divides text spans base).shown rfl byteSize_nil.symm, ?_⟩
    intro offset inside
    obtain ⟨paint, found, painted⟩ := paint_painted text.utf8ByteSize base spans inside
    simp only [Array.getD_eq_getD_getElem?, found, Option.getD_some]
    exact painted.shownIn

/-- Where there are ranges no run is empty, and neighbouring runs have different styles. -/
theorem runs_separate {spans : List Span} (ranges : spans ≠ []) (text : String) (base : Style) :
    (∀ run ∈ runs text spans base, run.1 ≠ "") ∧
      (runs text spans base).IsChain (fun first second => first.2 ≠ second.2) := by
  have divides := cuts_divides text spans base
  rw [runs, if_neg (by simpa using ranges)]
  constructor
  · intro run member
    obtain ⟨cut, among, rfl⟩ := List.mem_map.mp member
    obtain ⟨begins, ends, some_⟩ := divides.boundaries cut among
    obtain ⟨before, after, parted, place⟩ := (isCharBoundary_iff text cut.start).mp begins
    obtain ⟨part, rest, -, -, filled, sliced⟩ := slice_between parted place ends some_
    rw [sliced, ne_eq, ← String.toList_eq_nil_iff, String.toList_ofList]
    exact filled
  · rw [List.isChain_map]
    exact divides.differ

/-- The texts of runs make up the text of their characters. -/
theorem toList_join_runs (runs : List (String × Style)) :
    (String.join (runs.map (·.1))).toList = (shownChars runs).map (·.1) := by
  simp [String.toList_join, shownChars, List.map_flatMap, List.flatMap_map, Function.comp_def]

/-- A highlighted text is sliced only between characters, its runs make up the text, and none of them
could be joined with the next as long as there are ranges. Every character is shown in the base style
under the style of the range that decides about its first byte, or in the base style alone where no range
covers that byte. -/
theorem highlighted_text_is_whole (text : String) (spans : List Span) (base : Style) :
    (∀ cut ∈ cuts text spans base, isCharBoundary text cut.start = true ∧
      isCharBoundary text cut.stop = true ∧ cut.start < cut.stop) ∧
    String.join ((runs text spans base).map (·.1)) = text ∧
    (spans ≠ [] → (∀ run ∈ runs text spans base, run.1 ≠ "") ∧
      (runs text spans base).IsChain (fun first second => first.2 ≠ second.2)) ∧
    ∀ before c after, text.toList = before ++ c :: after → ∃ style,
      (shownChars (runs text spans base))[before.length]? = some (c, style) ∧
        ShownIn base spans (String.ofList before).utf8ByteSize style := by
  obtain ⟨styleAt, shown, decided⟩ := shownChars_runs text spans base
  refine ⟨(cuts_divides text spans base).boundaries, ?whole, ?separate, ?styled⟩
  case whole =>
    rw [← String.toList_inj, toList_join_runs, shown, map_fst_styledFrom]
  case separate =>
    intro ranges
    exact runs_separate ranges text base
  case styled =>
    intro before c after parted
    have inside : byteSize before < text.utf8ByteSize := by
      have whole := congrArg byteSize parted
      rw [byteSize_toList, byteSize_append, byteSize_cons] at whole
      have := c.utf8Size_pos
      omega
    have found := getElem?_styledFrom styleAt 0 before c after
    rw [Nat.zero_add, ← parted, ← shown] at found
    rw [utf8ByteSize_ofList]
    exact ⟨_, found, decided _ inside⟩

/-- Three characters of one, two and one bytes. A range that begins inside the second one leaves it to a
lower range over all three; on the first the later of two equals decides; a range that ends before it
starts covers nothing. -/
theorem accented_text_highlighted :
    let text := "aéb"
    let spans : List Span := [⟨2, 4, .ofFg .red, 10⟩, ⟨0, 9, .ofFg .yellow, 5⟩,
      ⟨0, 1, .ofFg .blue, 5⟩, ⟨3, 1, .ofFg .green, 200⟩]
    let runs := runs text spans {}
    ⟨1, 3, .ofFg .yellow⟩ ∈ cuts text spans {} ∧ spans ≠ [] ∧ ("é", .ofFg .yellow) ∈ runs ∧
      text.toList = ['a'] ++ 'é' :: ['b'] ∧
      runs = [("a", .ofFg .blue), ("é", .ofFg .yellow), ("b", .ofFg .red)] ∧
      (isCharBoundary text 1 = true ∧ isCharBoundary text 3 = true ∧ 1 < 3) ∧
      String.join (runs.map (·.1)) = text ∧
      "é" ≠ "" ∧ runs.IsChain (fun first second => first.2 ≠ second.2) ∧
      ∃ style, (shownChars runs)[1]? = some ('é', style) ∧
        ShownIn {} spans (String.ofList ['a']).utf8ByteSize style := by
  intro text spans runs
  have among : ⟨1, 3, .ofFg .yellow⟩ ∈ cuts text spans {} := by decide +kernel
  have ranges : spans ≠ [] := by decide
  have run : ("é", .ofFg .yellow) ∈ runs := by decide +kernel
  have parted : text.toList = ['a'] ++ 'é' :: ['b'] := by decide +kernel
  obtain ⟨bounded, whole, separate, styled⟩ := highlighted_text_is_whole text spans {}
  obtain ⟨filled, differ⟩ := separate ranges
  have sliced := bounded _ among
  have some_ := filled _ run
  have shown := styled _ _ _ parted
  exact ⟨among, ranges, run, parted, by decide +kernel, sliced, whole, some_, differ, shown⟩

end LiveLog.Highlight
