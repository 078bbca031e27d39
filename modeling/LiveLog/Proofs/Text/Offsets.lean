import LiveLog.Text.Offsets
import Mathlib.Data.List.Infix
import Mathlib.Data.String.Basic

/-! Byte offsets and characters. The offsets at which a text can be cut are the sizes of what stands before
a character, and a slice between two of them has exactly the characters between. So changes of a text at byte
offsets are changes of its list of characters, and a text that is found is a part of that list. -/
namespace LiveLog.Text

/-- Characters are counted from the front on, whatever is counted before them. -/
private theorem foldl_utf8Size (text : List Char) (size : Nat) :
    text.foldl (fun size c => size + c.utf8Size) size = size + String.utf8Len text := by
  induction text generalizing size with
  | nil => rfl
  | cons c rest ih =>
    rw [List.foldl_cons, ih, String.utf8Len_cons]
    omega

theorem byteSize_eq (text : List Char) : byteSize text = String.utf8Len text := by
  rw [byteSize, foldl_utf8Size, Nat.zero_add]

@[simp] theorem byteSize_nil : byteSize [] = 0 := rfl

@[simp] theorem byteSize_cons (c : Char) (rest : List Char) :
    byteSize (c :: rest) = c.utf8Size + byteSize rest := by
  rw [byteSize_eq, byteSize_eq, String.utf8Len_cons, Nat.add_comm]

@[simp] theorem byteSize_append (first second : List Char) :
    byteSize (first ++ second) = byteSize first + byteSize second := by
  simp only [byteSize_eq, String.utf8Len_append]

@[simp] theorem byteSize_eq_zero_iff (text : List Char) : byteSize text = 0 ↔ text = [] := by
  rw [byteSize_eq, String.utf8Len_eq_zero]

theorem utf8ByteSize_ofList (text : List Char) :
    (String.ofList text).utf8ByteSize = byteSize text := by
  rw [byteSize_eq, String.utf8ByteSize_ofList]

theorem byteSize_toList (text : String) : byteSize text.toList = text.utf8ByteSize := by
  rw [← utf8ByteSize_ofList, String.ofList_toList]

/-- A text can be cut at an offset exactly if what stands before it has that size. -/
theorem isCharBoundary_iff (text : String) (offset : Nat) :
    isCharBoundary text offset = true ↔
      ∃ before after, text.toList = before ++ after ∧ offset = byteSize before := by
  rw [isCharBoundary, String.Pos.Raw.isValid_eq_true_iff, String.Pos.Raw.isValid_iff_exists_append]
  constructor
  · rintro ⟨before, after, rfl, place⟩
    refine ⟨before.toList, after.toList, String.toList_append, ?_⟩
    rw [byteSize_toList]
    exact congrArg String.Pos.Raw.byteIdx place
  · rintro ⟨before, after, parts, rfl⟩
    refine ⟨String.ofList before, String.ofList after, ?_, ?_⟩
    · rw [← String.ofList_append, ← parts, String.ofList_toList]
    · rw [byteSize_eq, String.rawEndPos_ofList]

theorem isCharBoundary_zero (text : String) : isCharBoundary text 0 = true :=
  (isCharBoundary_iff text 0).mpr ⟨[], text.toList, rfl, rfl⟩

theorem isCharBoundary_end (text : String) : isCharBoundary text text.utf8ByteSize = true := by
  rw [isCharBoundary_iff]
  exact ⟨text.toList, [], by simp, (byteSize_toList text).symm⟩

/-- Of two ways to part a text, the one with the longer front has the other's front in it. -/
theorem parts_between {first second before after : List Char} (same : first ++ second = before ++ after)
    (longer : byteSize first ≤ byteSize before) :
    ∃ part, before = first ++ part ∧ second = part ++ after := by
  rcases List.append_eq_append_iff.mp same with ⟨part, front, back⟩ | ⟨part, front, back⟩
  · exact ⟨part, front, back⟩
  · -- Then the fronts are the same.
    have nothing : part = [] := by
      rw [front, byteSize_append] at longer
      rw [← byteSize_eq_zero_iff]
      omega
    subst nothing
    exact ⟨[], by simpa using front.symm, by simpa using back.symm⟩

/-- A slice has the characters between its offsets. -/
theorem slice_eq {text : String} {before part after : List Char}
    (parts : text.toList = before ++ part ++ after) :
    slice text (byteSize before) (byteSize before + byteSize part) = String.ofList part := by
  obtain rfl : text = String.ofList (before ++ part ++ after) := by
    rw [← parts, String.ofList_toList]
  rw [slice, byteSize_eq, byteSize_eq]
  exact String.extract_of_valid before part after

/-! ### Changes

A position leads to the offset where the characters before it end, whatever sizes they have; something can be
put in just where a list can be split, and something can be taken out just where another character follows. -/

section
theorem charStarts_append (offset : Nat) (before after : List Char) :
    charStarts offset (before ++ after) =
      charStarts offset before ++ charStarts (offset + byteSize before) after := by
  induction before generalizing offset with
  | nil => simp [charStarts]
  | cons c before ih => simp [charStarts, ih, Nat.add_assoc]

theorem length_charStarts (offset : Nat) (text : List Char) :
    (charStarts offset text).length = text.length := by
  induction text generalizing offset with
  | nil => rfl
  | cons c rest ih => simp [charStarts, ih]

variable {text later : String} {before after : List Char} {offset : Nat} {c : Char}

/-- A position leads to the size of what stands before it. -/
theorem byteOffset_eq (parts : text.toList = before ++ after) :
    byteOffset text before.length = byteSize before := by
  rw [byteOffset, parts, charStarts_append, List.getElem?_append_right (length_charStarts 0 before).le,
    length_charStarts, Nat.sub_self, Nat.zero_add]
  cases after with
  | nil =>
    -- No character begins at the end, whose offset is the size of the text.
    rw [List.append_nil] at parts
    rw [← parts, byteSize_toList]
    rfl
  | cons c after => rfl

theorem boundary_between (parts : text.toList = before ++ after) :
    isCharBoundary text (byteSize before) = true :=
  (isCharBoundary_iff text (byteSize before)).mpr ⟨before, after, parts, rfl⟩

theorem slice_front (parts : text.toList = before ++ after) :
    slice text 0 (byteSize before) = String.ofList before := by
  have whole : text.toList = [] ++ before ++ after := parts
  have sliced := slice_eq whole
  rwa [byteSize_nil, Nat.zero_add] at sliced

theorem slice_back (parts : text.toList = before ++ after) :
    slice text (byteSize before) text.utf8ByteSize = String.ofList after := by
  have size : text.utf8ByteSize = byteSize before + byteSize after := by
    rw [← byteSize_toList, parts, byteSize_append]
  rw [size]
  exact slice_eq (parts.trans (List.append_nil _).symm)

theorem insert?_between (parts : text.toList = before ++ after) (c : Char) :
    insert? text (byteSize before) c = some (String.ofList (before ++ c :: after)) := by
  rw [insert?, if_pos (boundary_between parts), slice_front parts, slice_back parts]
  simp [← String.toList_inj]

/-- At the end there is no character to take out. -/
theorem remove?_between (parts : text.toList = before ++ after) :
    remove? text (byteSize before) =
      after.head?.map fun _ => String.ofList (before ++ after.tail) := by
  rw [remove?, if_pos (boundary_between parts), slice_front parts, slice_back parts,
    String.toList_ofList]
  cases after with
  | nil => rfl
  | cons c after =>
    have next : text.toList = before ++ [c] ++ after := by rw [parts, List.append_cons]
    have stop : byteSize before + c.utf8Size = byteSize (before ++ [c]) := by simp
    rw [List.head?_cons, Option.map_some, Option.map_some, stop, slice_back next,
      ← String.ofList_append, List.tail_cons]

/-- A character is put in between two parts of a text, and nowhere else. -/
theorem insert?_eq_some_iff :
    insert? text offset c = some later ↔
      ∃ before after, text.toList = before ++ after ∧ offset = byteSize before ∧
        later = String.ofList (before ++ c :: after) := by
  constructor
  · intro inserted
    by_cases boundary : isCharBoundary text offset = true
    · obtain ⟨before, after, parts, rfl⟩ := (isCharBoundary_iff text offset).mp boundary
      rw [insert?_between parts] at inserted
      exact ⟨before, after, parts, rfl, (Option.some.inj inserted).symm⟩
    · rw [insert?, if_neg boundary] at inserted
      cases inserted
  · rintro ⟨before, after, parts, rfl, rfl⟩
    exact insert?_between parts c

/-- What is taken out of a text is a whole character, at the offset of its first byte. -/
theorem remove?_eq_some_iff :
    remove? text offset = some later ↔
      ∃ before c after, text.toList = before ++ c :: after ∧ offset = byteSize before ∧
        later = String.ofList (before ++ after) := by
  constructor
  · intro removed
    by_cases boundary : isCharBoundary text offset = true
    · obtain ⟨before, after, parts, rfl⟩ := (isCharBoundary_iff text offset).mp boundary
      rw [remove?_between parts] at removed
      cases after with
      | nil => cases removed
      | cons c after => exact ⟨before, c, after, parts, rfl, (Option.some.inj removed).symm⟩
    · rw [remove?, if_neg boundary] at removed
      cases removed
  · rintro ⟨before, c, after, parts, rfl, rfl⟩
    exact remove?_between parts

end

/-! ### Finding

Letters are compared through a key, the same for every letter: a pattern of keys is found exactly if it is a
contiguous part of the keys of the text. The search that folds case and the search among texts in lower case are
both of this kind. -/

variable {same : Char → Char → Bool} {key : Char → Char}

theorem startsWith_iff (keyed : ∀ letter c, same letter c = true ↔ letter = key c)
    (pattern text : List Char) :
    startsWith same pattern text = true ↔ pattern <+: text.map key := by
  induction pattern generalizing text with
  | nil => simp [startsWith]
  | cons letter pattern ih =>
    cases text with
    | nil => simp [startsWith]
    | cons c text =>
      rw [startsWith, Bool.and_eq_true, keyed, ih, List.map_cons, List.cons_prefix_cons]

/-- The positions tried are those before the bound that lie in the text, its end included. -/
theorem occursWithin_iff (pattern : List Char) (starts : Nat) (text : List Char) :
    occursWithin same pattern starts text = true ↔
      ∃ position, position < starts ∧ position ≤ text.length ∧
        startsWith same pattern (text.drop position) = true := by
  induction starts generalizing text with
  | zero => simp [occursWithin]
  | succ starts ih =>
    cases text with
    | nil =>
      constructor
      · intro found
        exact ⟨0, Nat.succ_pos starts, Nat.le_refl 0, found⟩
      · rintro ⟨position, -, -, found⟩
        rwa [List.drop_nil] at found
    | cons c text =>
      rw [occursWithin, Bool.or_eq_true, ih]
      constructor
      · rintro (found | ⟨position, early, within, found⟩)
        · exact ⟨0, Nat.succ_pos starts, Nat.zero_le _, found⟩
        · exact ⟨position + 1, Nat.succ_lt_succ early, Nat.succ_le_succ within, found⟩
      · rintro ⟨position, early, within, found⟩
        cases position with
        | zero => exact .inl found
        | succ position =>
          exact .inr ⟨position, Nat.lt_of_succ_lt_succ early, Nat.le_of_succ_le_succ within, found⟩

/-- A pattern of keys is found exactly if it is a contiguous part of the keys of the text. No position is
lost by leaving out those without room for the pattern. -/
theorem occurs_iff (keyed : ∀ letter c, same letter c = true ↔ letter = key c)
    (pattern text : List Char) :
    occurs same pattern text = true ↔ pattern <:+: text.map key := by
  rw [occurs, occursWithin_iff, List.infix_iff_prefix_suffix]
  constructor
  · rintro ⟨position, -, -, found⟩
    refine ⟨(text.map key).drop position, ?_, List.drop_suffix _ _⟩
    rw [← List.map_drop]
    exact (startsWith_iff keyed _ _).mp found
  · rintro ⟨rest, front, back⟩
    have room := front.length_le
    have part := back.length_le
    rw [List.length_map] at part
    refine ⟨text.length - rest.length, by omega, by omega, ?_⟩
    have rest_eq := List.suffix_iff_eq_drop.mp back
    rw [List.length_map, ← List.map_drop] at rest_eq
    rw [startsWith_iff keyed, ← rest_eq]
    exact front

end LiveLog.Text
