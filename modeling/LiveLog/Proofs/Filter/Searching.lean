import LiveLog.Filter
import LiveLog.Proofs.Text.Offsets
import LiveLog.Text.Casing
import Mathlib.Data.List.Basic

/-! The two ways of searching. A matcher folds the letters of the search text and of what is searched; where
a text is too large for one, both are put in lower case. Each way looks for a contiguous part, and on ASCII
characters the two mappings are the same, so that the size of a search text never shows in what passes. -/
namespace LiveLog

/-! ### Letters of ASCII

Case folding and lower case come to the same for them, and a text of ASCII characters keeps its length in lower
case: neither growing characters nor the sigma that ends a word occur. -/

namespace Text

theorem asciiLower_of_ascii {c : Char} (ascii : isAscii c = true) : asciiLower c = c.toLower := by
  have each : ∀ code < 128, asciiLower (Char.ofNat code) = (Char.ofNat code).toLower := by decide
  have lower := each c.toNat (of_decide_eq_true ascii)
  rwa [Char.ofNat_toNat] at lower

theorem foldChar_of_ascii {c : Char} (ascii : isAscii c = true) : foldChar c = c.toLower := by
  rw [foldChar, if_pos ascii, asciiLower_of_ascii ascii]

theorem lowerChar_of_ascii {c : Char} (ascii : isAscii c = true) : lowerChar c = [c.toLower] := by
  rw [lowerChar, if_pos ascii, asciiLower_of_ascii ascii]

/-- A text of ASCII characters is folded to lower case. -/
theorem map_foldChar_of_ascii {text : List Char} (ascii : ∀ c ∈ text, isAscii c = true) :
    text.map foldChar = text.map Char.toLower :=
  List.map_congr_left fun c member => foldChar_of_ascii (ascii c member)

/-- Without a capital sigma no character depends on its neighbours. -/
theorem lowerFrom_of_no_sigma {text : List Char} (plain : 'Σ' ∉ text) (before done : List Char) :
    lowerFrom before done text = done.reverse ++ text.flatMap lowerChar := by
  induction text generalizing before done with
  | nil => simp [lowerFrom]
  | cons c rest ih =>
    have other : c ≠ 'Σ' := Ne.symm (List.ne_of_not_mem_cons plain)
    rw [lowerFrom, if_neg other, ih (List.not_mem_of_not_mem_cons plain), List.reverse_append,
      List.reverse_reverse, List.append_assoc, List.flatMap_cons]

/-- A text of ASCII characters is put in lower case letter by letter. -/
theorem lowerChars_of_ascii {text : List Char} (ascii : ∀ c ∈ text, isAscii c = true) :
    lowerChars text = text.map Char.toLower := by
  have plain : 'Σ' ∉ text := fun member => absurd (ascii 'Σ' member) (by decide)
  calc lowerChars text
    _ = text.flatMap lowerChar := by
        rw [lowerChars, lowerFrom_of_no_sigma plain, List.reverse_nil, List.nil_append]
    _ = text.flatMap fun c => [c.toLower] :=
        List.flatMap_congr fun c member => lowerChar_of_ascii (ascii c member)
    _ = text.map Char.toLower := List.map_eq_flatMap.symm

end Text

/-! ### Searches -/

namespace Matcher

/-- The matcher of a text of any size. -/
def ofLetters (text : List Char) : Matcher :=
  ⟨text.map Text.foldChar⟩

theorem ofChars?_cases (text : List Char) :
    ofChars? text = none ∨ ofChars? text = some (ofLetters text) := by
  rw [ofChars?]
  split
  · exact .inl rfl
  · exact .inr rfl

/-- A matcher finds its text wherever the folded letters stand, be they letters or not. -/
theorem occursIn_ofLetters_iff (text within : List Char) :
    (ofLetters text).occursIn within = true ↔
      text.map Text.foldChar <:+: within.map Text.foldChar :=
  Text.occurs_iff (fun _ _ => decide_eq_true_iff) _ _

end Matcher

namespace Filter

/-- The filter of a search text with its matcher, however large the text is. -/
def matching (text : String) (showVerbose : Bool) : Filter :=
  { new text showVerbose with matcher := some (.ofLetters text.toList) }

/-- The filter of a search text without a matcher, however small the text is. -/
def lowering (text : String) (showVerbose : Bool) : Filter :=
  { new text showVerbose with matcher := none }

/-- The filter of a search text is one of the two; which one depends on the size of the text. -/
theorem new_cases (text : String) (showVerbose : Bool) :
    new text showVerbose = matching text showVerbose ∨
      new text showVerbose = lowering text showVerbose := by
  rcases Matcher.ofChars?_cases text.toList with none_ | some_
  · right
    rw [new, lowering, none_]
    rfl
  · left
    rw [new, matching, some_]
    rfl

/-- Whether a text occurs in another when the case of letters does not count. Every character of it stands
for itself. -/
def OccursIn (text within : String) : Prop :=
  ∃ part, part <:+: within.toList ∧ part.map Char.toLower = text.toList.map Char.toLower

/-- What is to pass: a record whose level is shown, and in whose message or time of day the search text
occurs, if there is one. -/
def Passes (text : String) (showVerbose : Bool) (record : Record) : Prop :=
  (showVerbose = true ∨ record.level ≠ .debug ∧ record.level ≠ .trace) ∧
    (text = "" ∨ OccursIn text record.message ∨ OccursIn text record.timestamp)

/-- A text of ASCII characters. -/
def IsAscii (text : String) : Prop :=
  ∀ c ∈ text.toList, c.toNat < 128

instance (text : String) : Decidable (IsAscii text) :=
  List.decidableBAll (fun c : Char => c.toNat < 128) text.toList

theorem occursIn_iff (text within : String) :
    OccursIn text within ↔ text.toList.map Char.toLower <:+: within.toList.map Char.toLower := by
  rw [OccursIn, List.infix_map_iff]
  exact exists_congr fun part => and_congr_right fun _ => eq_comm

theorem isAscii_iff {text : String} :
    IsAscii text ↔ ∀ c ∈ text.toList, Text.isAscii c = true := by
  simp only [IsAscii, Text.isAscii, decide_eq_true_eq]

variable {text : String} {showVerbose : Bool}

theorem findsIn_matching_iff {within : String} (ascii : IsAscii text) (plain : IsAscii within) :
    (matching text showVerbose).findsIn within = true ↔ OccursIn text within := by
  rw [occursIn_iff, ← Text.map_foldChar_of_ascii (isAscii_iff.mp ascii),
    ← Text.map_foldChar_of_ascii (isAscii_iff.mp plain)]
  exact Matcher.occursIn_ofLetters_iff _ _

theorem findsIn_lowering_iff {within : String} (ascii : IsAscii text) (plain : IsAscii within) :
    (lowering text showVerbose).findsIn within = true ↔ OccursIn text within := by
  rw [occursIn_iff, ← Text.lowerChars_of_ascii (isAscii_iff.mp ascii),
    ← Text.lowerChars_of_ascii (isAscii_iff.mp plain)]
  have found : (lowering text showVerbose).findsIn within = true ↔
      Text.lowerChars text.toList <:+: (Text.lowerChars within.toList).map id :=
    Text.occurs_iff (fun _ _ => decide_eq_true_iff) _ _
  rwa [List.map_id] at found

theorem isVerbose_eq_false_iff (level : Level) :
    level.isVerbose = false ↔ level ≠ .debug ∧ level ≠ .trace := by
  cases level <;> simp [Level.isVerbose]

/-- A filter lets through what its settings allow and its search finds. -/
theorem admits_iff (filter : Filter) (record : Record) :
    filter.admits record = true ↔
      (filter.showVerbose = true ∨ record.level ≠ .debug ∧ record.level ≠ .trace) ∧
        (filter.text = "" ∨ filter.findsIn record.message = true ∨
          filter.findsIn record.timestamp = true) := by
  have hidden_iff : (!filter.showVerbose && record.level.isVerbose) = true ↔
      ¬ (filter.showVerbose = true ∨ record.level ≠ .debug ∧ record.level ≠ .trace) := by
    rw [← isVerbose_eq_false_iff, Bool.and_eq_true, Bool.not_eq_true', not_or, Bool.not_eq_true,
      Bool.not_eq_false]
  rw [admits]
  split
  · rename_i hidden
    exact iff_of_false Bool.false_ne_true fun passes => hidden_iff.mp hidden passes.1
  · rename_i shown
    have level := not_not.mp (mt hidden_iff.mpr shown)
    split
    · rename_i empty
      exact iff_of_true rfl ⟨level, .inl (String.isEmpty_iff.mp empty)⟩
    · rename_i some_
      rw [Bool.or_eq_true, and_iff_right level, or_iff_right (mt String.isEmpty_iff.mpr some_)]

/-- On ASCII characters a filter with a matcher and one without let the same records through, and so does the
filter that is made of the text, whatever its size: those whose level is shown and in whose message or time
of day the text occurs regardless of case, if it is not empty. -/
theorem both_searches_decide_alike (text : String) (showVerbose : Bool) (record : Record)
    (ascii : IsAscii text) (plain : IsAscii record.message ∧ IsAscii record.timestamp) :
    ((matching text showVerbose).admits record = true ↔ Passes text showVerbose record) ∧
      ((lowering text showVerbose).admits record = true ↔ Passes text showVerbose record) ∧
      ((new text showVerbose).admits record = true ↔ Passes text showVerbose record) := by
  have matched : (matching text showVerbose).admits record = true ↔ Passes text showVerbose record := by
    rw [admits_iff, findsIn_matching_iff ascii plain.1, findsIn_matching_iff ascii plain.2]
    exact Iff.rfl
  have lowered : (lowering text showVerbose).admits record = true ↔ Passes text showVerbose record := by
    rw [admits_iff, findsIn_lowering_iff ascii plain.1, findsIn_lowering_iff ascii plain.2]
    exact Iff.rfl
  refine ⟨matched, lowered, ?_⟩
  rcases new_cases text showVerbose with made | made
  · rwa [made]
  · rwa [made]

/-- A dot is found as a dot and not as any character, capital letters are found as small ones, and a level
that is hidden is not searched. -/
theorem dot_stands_for_itself :
    let text := "A.C"
    let found : Record := ⟨"12:00:00.0", "abc a.c", .warn, 1⟩
    let missed : Record := ⟨"12:00:00.0", "abc", .warn, 2⟩
    let hidden : Record := ⟨"12:00:00.0", "abc a.c", .debug, 3⟩
    IsAscii text ∧
      (∀ record ∈ [found, missed, hidden], IsAscii record.message ∧ IsAscii record.timestamp) ∧
      (∀ filter ∈ [matching text false, lowering text false, new text false],
        [found, missed, hidden].map filter.admits = [true, false, false]) ∧
      Passes text false found ∧ ¬ Passes text false missed ∧ ¬ Passes text false hidden := by
  intro text found missed hidden
  have ascii : IsAscii text := by decide
  have plain : ∀ record ∈ [found, missed, hidden], IsAscii record.message ∧ IsAscii record.timestamp := by
    decide
  have decides (record : Record) (member : record ∈ [found, missed, hidden]) :=
    (both_searches_decide_alike text false record ascii (plain record member)).1
  refine ⟨ascii, plain, by decide +kernel, (decides found (by simp)).mp (by decide +kernel),
    mt (decides missed (by simp)).mpr (by decide +kernel),
    mt (decides hidden (by simp)).mpr (by decide +kernel)⟩

/-- Beyond ASCII the two ways part: the long s folds to `s`, and is a small letter already. -/
example : (matching "s" false).findsIn "ſ" = true ∧ (lowering "s" false).findsIn "ſ" = false := by
  decide +kernel

end Filter

end LiveLog
