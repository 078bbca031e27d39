import LiveLog.Proofs.Timestamp.Digits

/-! Times of day as they are rendered. Whatever the timestamp looked like, the result has fixed width and
fields in range, and as it starts with two digits and a colon no reader takes it for a timestamp again. -/
namespace LiveLog.Timestamp

/-- The form of a rendered time of day: `HH:MM:SS.d`, where second 60 is a leap second. -/
def Rendered (text : String) : Prop :=
  ∃ (hour : Field 2 23) (minute : Field 2 59) (second : Field 2 60) (tenth : Field 1 9),
    text = String.ofList (hour.digits ++ ':' :: minute.digits ++ ':' :: second.digits ++
      '.' :: tenth.digits)

/-- Fields in their ranges, and a fraction of less than a second. -/
def Civil.InRange (t : Civil) : Prop :=
  t.isValid = true ∧ t.nanosecond < 1000000000

/-! ### What is read is in range -/

theorem internet?_inRange {text : List Char} {t : Civil} (read : internet? text = some t) :
    t.InRange := by
  -- One reader after the other: only the fraction and the check at the end matter here.
  obtain ⟨⟨year, _⟩, -, read⟩ := Option.bind_eq_some_iff.mp read
  obtain ⟨_, -, read⟩ := Option.bind_eq_some_iff.mp read
  obtain ⟨⟨month, _⟩, -, read⟩ := Option.bind_eq_some_iff.mp read
  obtain ⟨_, -, read⟩ := Option.bind_eq_some_iff.mp read
  obtain ⟨⟨day, _⟩, -, read⟩ := Option.bind_eq_some_iff.mp read
  obtain ⟨_, -, read⟩ := Option.bind_eq_some_iff.mp read
  obtain ⟨⟨hour, _⟩, -, read⟩ := Option.bind_eq_some_iff.mp read
  obtain ⟨_, -, read⟩ := Option.bind_eq_some_iff.mp read
  obtain ⟨⟨minute, _⟩, -, read⟩ := Option.bind_eq_some_iff.mp read
  obtain ⟨_, -, read⟩ := Option.bind_eq_some_iff.mp read
  obtain ⟨⟨second, _⟩, -, read⟩ := Option.bind_eq_some_iff.mp read
  obtain ⟨⟨fraction, _⟩, fractionRead, read⟩ := Option.bind_eq_some_iff.mp read
  obtain ⟨_, -, accepted⟩ := Option.bind_eq_some_iff.mp read
  obtain ⟨valid, same⟩ := Option.ite_none_right_eq_some.mp accepted
  cases same
  exact ⟨(Bool.and_eq_true_iff.mp valid).2, fraction?_lt fractionRead⟩

/-- No piece of a pattern makes the fraction a second or more. -/
theorem Piece.read?_nanosecond {piece : Piece} {before after : Civil} {text rest : List Char}
    (small : before.nanosecond < 1000000000) (read : piece.read? before text = some (after, rest)) :
    after.nanosecond < 1000000000 := by
  cases piece with
  | fraction =>
    obtain ⟨⟨n, behind⟩, fraction, same⟩ := Option.map_eq_some_iff.mp read
    cases same
    exact fraction?_lt fraction
  | blanks =>
    cases read
    exact small
  | literal c =>
    obtain ⟨behind, -, same⟩ := Option.map_eq_some_iff.mp read
    cases same
    exact small
  | year | month | day | hour | minute | second =>
    obtain ⟨⟨n, behind⟩, -, same⟩ := Option.map_eq_some_iff.mp read
    cases same
    exact small

theorem Pattern.read?_nanosecond {pattern : Pattern} {before after : Civil} {text rest : List Char}
    (small : before.nanosecond < 1000000000) (read : pattern.read? before text = some (after, rest)) :
    after.nanosecond < 1000000000 := by
  induction pattern generalizing before text with
  | nil =>
    cases read
    exact small
  | cons piece pattern ih =>
    obtain ⟨⟨between, behind⟩, first, others⟩ := Option.bind_eq_some_iff.mp read
    exact ih (piece.read?_nanosecond small first) others

theorem Pattern.civil?_inRange {pattern : Pattern} {text : List Char} {t : Civil}
    (read : pattern.civil? text = some t) : t.InRange := by
  obtain ⟨⟨civil, _⟩, gathered, accepted⟩ := Option.bind_eq_some_iff.mp read
  obtain ⟨valid, same⟩ := Option.ite_none_right_eq_some.mp accepted
  cases same
  exact ⟨(Bool.and_eq_true_iff.mp valid).2, Pattern.read?_nanosecond (by decide) gathered⟩

theorem civil?_inRange {text : List Char} {t : Civil} (read : civil? text = some t) : t.InRange := by
  simp only [civil?, Option.orElse_eq_orElse, Option.orElse_eq_or, Option.or_eq_some_iff] at read
  rcases read with strict | ⟨-, joined | ⟨-, spaced⟩⟩
  · exact internet?_inRange strict
  · exact Pattern.civil?_inRange joined
  · exact Pattern.civil?_inRange spaced

/-! ### What is in range is rendered in form -/

theorem Civil.tenths_le {t : Civil} (range : t.InRange) : t.tenths ≤ 9 := by
  rw [tenths]
  split
  · exact Nat.le_refl 9
  · have small := range.2
    omega

theorem Civil.rendered_timeOfDay {t : Civil} (range : t.InRange) :
    Rendered (String.ofList t.timeOfDay) := by
  obtain ⟨-, -, -, early, within, short⟩ := t.isValid_iff.mp range.1
  obtain ⟨hour, hourDigits⟩ := exists_field_twoDigits early (by omega)
  obtain ⟨minute, minuteDigits⟩ := exists_field_twoDigits within (by omega)
  obtain ⟨second, secondDigits⟩ := exists_field_twoDigits short (by omega)
  obtain ⟨tenth, tenthDigits⟩ := exists_field_digit (t.tenths_le range)
  refine ⟨hour, minute, second, tenth, ?_⟩
  rw [hourDigits, minuteDigits, secondDigits, tenthDigits, Civil.timeOfDay]

/-! ### What is rendered is no timestamp -/

/-- The strict reader misses digits of the year in front of a colon. -/
theorem internet?_two_digits {most : Nat} (field : Field 2 most) (rest : List Char) :
    internet? (field.digits ++ ':' :: rest) = none := by
  have colon : NoDigitFirst (':' :: rest) := noDigitFirst_cons rfl
  have short : field.digits.length ≤ 4 := field.length_digits.le.trans (by decide)
  have year : number? 4 4 (field.digits ++ ':' :: rest) = none := by
    rw [number?, leadingDigits_append field.all_digits short (.inr colon), if_pos]
    rw [field.length_digits]
    decide
  rw [internet?, year]
  rfl

/-- A lenient reader takes two digits for a year and misses the dash behind it. -/
theorem civil?_two_digits {most : Nat} (pattern : Pattern) (field : Field 2 most) (rest : List Char) :
    Pattern.civil? (.year :: .literal '-' :: pattern) (field.digits ++ ':' :: rest) = none := by
  have colon : NoDigitFirst (':' :: rest) := noDigitFirst_cons rfl
  have short : field.digits.length ≤ 4 := field.length_digits.le.trans (by decide)
  have year := year?_digits field.digits_ne_nil field.all_digits short (.inr colon)
  have dash : literal? '-' (':' :: rest) = none := rfl
  simp [Pattern.civil?, Pattern.read?, Piece.read?, year, dash]

theorem civil?_of_rendered {text : String} (rendered : Rendered text) :
    civil? text.toList = none := by
  obtain ⟨hour, minute, second, tenth, rfl⟩ := rendered
  rw [String.toList_ofList, List.append_assoc, List.append_assoc, List.cons_append, civil?,
    internet?_two_digits, joined, spaced, datePieces]
  simp only [List.cons_append, civil?_two_digits]
  rfl

/-- The time of day of any text is the text itself or has the form of one, and is its own time of day. -/
theorem timeOfDay_closed_and_idempotent (text : String) :
    (timeOfDay text = text ∨ Rendered (timeOfDay text)) ∧
      timeOfDay (timeOfDay text) = timeOfDay text := by
  cases read : civil? text.toList with
  | none =>
    have same : timeOfDay text = text := by rw [timeOfDay, read]
    exact ⟨.inl same, congrArg timeOfDay same⟩
  | some t =>
    have form : timeOfDay text = String.ofList t.timeOfDay := by rw [timeOfDay, read]
    have rendered : Rendered (timeOfDay text) := form ▸ t.rendered_timeOfDay (civil?_inRange read)
    refine ⟨.inr rendered, ?_⟩
    have unread := civil?_of_rendered rendered
    rw [timeOfDay, unread]

end LiveLog.Timestamp
