import LiveLog.DeepLink
import LiveLog.Proofs.Text.Decimal
import Mathlib.Data.List.DropRight

/-! Which locations are read back from their written form. A location with a line is, as soon as nothing
is taken away from the front of its job: the last colon is the one in front of the line, whatever the job
holds. A job alone must also keep its end, and must not read as a line of a shorter job. -/
namespace LiveLog.DeepLink

/-- A text with nothing to be taken away from its front. -/
def FrontStays (text : List Char) : Prop :=
  ∀ c, text.head? = some c → Text.isBlank c = false ∧ c ≠ '#'

/-- A text with nothing to be taken away from its end. -/
def EndStays (text : List Char) : Prop :=
  ∀ c, text.getLast? = some c → Text.isBlank c = false

/-- A text that reads as a line of a job: a numeral stands after the last colon, and something before
it. -/
def NamesLine (text : List Char) : Prop :=
  ∃ job line, text = job ++ ':' :: line ∧ job ≠ [] ∧ ':' ∉ line ∧ Text.Numeral line

/-! ### The last colon -/

/-- A text is split at the colon that none follows. -/
theorem splitLastColon?_append (job : List Char) {line : List Char} (last : ':' ∉ line) :
    splitLastColon? (job ++ ':' :: line) = some (job, line) := by
  have passed : ∀ c ∈ line.reverse, decide (c ≠ ':') = true := by
    intro c member
    rw [decide_eq_true_eq]
    rintro rfl
    exact last (List.mem_reverse.mp member)
  have turned : (job ++ ':' :: line).reverse = line.reverse ++ ':' :: job.reverse := by simp
  rw [splitLastColon?, turned, List.dropWhile_append_of_pos passed,
    List.takeWhile_append_of_pos passed]
  simp

/-- What a text is split into makes it up again. -/
theorem eq_of_splitLastColon? {text job line : List Char}
    (split_ : splitLastColon? text = some (job, line)) : text = job ++ ':' :: line ∧ ':' ∉ line := by
  have parts := List.takeWhile_append_dropWhile (p := fun c => decide (c ≠ ':')) (l := text.reverse)
  have stop := List.head?_dropWhile_not (fun c => decide (c ≠ ':')) text.reverse
  unfold splitLastColon? at split_
  split at split_
  · rename_i colon before found
    rw [found, List.head?_cons] at stop
    obtain rfl : colon = ':' := by simpa using stop
    cases split_
    constructor
    · have whole := congrArg List.reverse parts
      rw [found] at whole
      simpa using whole.symm
    · intro member
      have unlike := List.mem_takeWhile_imp (List.mem_reverse.mp member)
      simp at unlike
  · simp at split_

/-! ### A text without surroundings -/

/-- A numeral after the last colon is the line. -/
theorem ofChars_line {job line : List Char} {n : UInt64} (some_ : job ≠ []) (last : ':' ∉ line)
    (read : Text.word? line = some n) :
    ofChars (job ++ ':' :: line) = ⟨String.ofList job, some n⟩ := by
  simp [ofChars, splitLastColon?_append job last, some_, read]

/-- Any other text is a job as a whole. -/
theorem ofChars_whole {text : List Char} (plain : ¬ NamesLine text) :
    ofChars text = ⟨String.ofList text, none⟩ := by
  cases found : splitLastColon? text with
  | none => simp [ofChars, found]
  | some parts =>
    obtain ⟨job, line⟩ := parts
    obtain ⟨whole, last⟩ := eq_of_splitLastColon? found
    by_cases empty : job = []
    · simp [ofChars, found, empty]
    · have unread : Text.word? line = none := by
        rw [← Option.not_isSome_iff_eq_none, Text.word?_isSome_iff]
        intro numeral
        exact plain ⟨job, line, whole, empty, last, numeral⟩
      simp [ofChars, found, empty, unread]

/-- A text is read as a job alone exactly if it reads as no line, and it is that job. -/
theorem ofChars_eq_job_iff (text : List Char) (job : String) :
    ofChars text = ⟨job, none⟩ ↔ text = job.toList ∧ ¬ NamesLine text := by
  constructor
  · intro read
    have plain : ¬ NamesLine text := by
      rintro ⟨before, line, rfl, some_, last, numeral⟩
      obtain ⟨n, value⟩ := Option.isSome_iff_exists.mp ((Text.word?_isSome_iff line).mpr numeral)
      rw [ofChars_line some_ last value] at read
      cases read
    rw [ofChars_whole plain] at read
    cases read
    exact ⟨String.toList_ofList.symm, plain⟩
  · rintro ⟨rfl, plain⟩
    rw [ofChars_whole plain, String.ofList_toList]

/-! ### Surroundings -/

/-- The text without the white space and the `#` signs in front of it. -/
def withoutFront (text : List Char) : List Char :=
  (Text.trimStart text).dropWhile (· = '#')

/-- The text without all that does not belong to a location. -/
def withoutSurroundings (text : List Char) : List Char :=
  (Text.trim text).dropWhile (· = '#')

theorem parse_eq_ok_iff (text : String) (link : DeepLink) :
    parse text = .ok link ↔
      withoutSurroundings text.toList ≠ [] ∧ ofChars (withoutSurroundings text.toList) = link := by
  rw [parse, withoutSurroundings]
  cases (Text.trim text.toList).dropWhile (· = '#') with
  | nil => simp
  | cons first rest => simp

private theorem dropWhile_eq_self_iff_head {text : List Char} {p : Char → Bool} :
    text.dropWhile p = text ↔ ∀ c, text.head? = some c → p c = false := by
  rw [List.dropWhile_eq_self_iff]
  cases text with
  | nil => simp
  | cons first rest => simp

/-- What stops the taking away stays, with all that follows. -/
private theorem dropWhile_append_stop {text rest : List Char} {p : Char → Bool} {c : Char}
    (stops : p c = false) : (text ++ c :: rest).dropWhile p = text.dropWhile p ++ c :: rest := by
  rw [List.dropWhile_append]
  split
  · rename_i all
    rw [List.isEmpty_iff.mp all, List.dropWhile_cons_of_neg (by simp [stops]), List.nil_append]
  · rfl

theorem trimEnd_eq_self_iff (text : List Char) : Text.trimEnd text = text ↔ EndStays text := by
  have trimmed : Text.trimEnd text = text.rdropWhile Text.isBlank := rfl
  rw [trimmed, List.rdropWhile_eq_self_iff, EndStays]
  rcases List.eq_nil_or_concat' text with rfl | ⟨chars, last, rfl⟩
  · simp
  · simp

theorem frontStays_iff (text : List Char) :
    FrontStays text ↔ Text.trimStart text = text ∧ text.dropWhile (· = '#') = text := by
  rw [Text.trimStart, dropWhile_eq_self_iff_head, dropWhile_eq_self_iff_head, ← forall_and]
  simp only [FrontStays, ← imp_and, decide_eq_false_iff_not]

/-- A text that is shortened twice stays as it is only if each time nothing is taken away. -/
private theorem shortened_twice_eq_self_iff {first second : List Char → List Char}
    (once : ∀ text, List.Sublist (first text) text) (again : ∀ text, List.Sublist (second text) text)
    (text : List Char) : second (first text) = text ↔ first text = text ∧ second text = text := by
  constructor
  · intro kept
    have within := again (first text)
    rw [kept] at within
    have whole : first text = text := (once text).antisymm within
    rw [whole] at kept
    exact ⟨whole, kept⟩
  · rintro ⟨whole, kept⟩
    rw [whole, kept]

/-- Nothing is taken away from the front of a text exactly if its front stays. -/
theorem withoutFront_eq_self_iff (text : List Char) :
    withoutFront text = text ↔ FrontStays text := by
  rw [frontStays_iff]
  exact shortened_twice_eq_self_iff (fun _ => List.dropWhile_sublist _)
    (fun _ => List.dropWhile_sublist _) text

theorem trim_eq_self_iff (text : List Char) :
    Text.trim text = text ↔ Text.trimStart text = text ∧ EndStays text := by
  rw [← trimEnd_eq_self_iff]
  exact shortened_twice_eq_self_iff (fun _ => List.dropWhile_sublist _)
    (fun text => (List.rdropWhile_prefix Text.isBlank text).sublist) text

/-- Nothing is taken away from a text exactly if its front and its end stay. -/
theorem withoutSurroundings_eq_self_iff (text : List Char) :
    withoutSurroundings text = text ↔ FrontStays text ∧ EndStays text := by
  have trimmed (text : List Char) : List.Sublist (Text.trim text) text :=
    (List.rdropWhile_prefix Text.isBlank _).sublist.trans (List.dropWhile_sublist _)
  have parted : withoutSurroundings text = text ↔
      Text.trim text = text ∧ text.dropWhile (· = '#') = text :=
    shortened_twice_eq_self_iff trimmed (fun _ => List.dropWhile_sublist _) text
  rw [parted, trim_eq_self_iff, frontStays_iff, and_right_comm]

/-! ### Locations written and read -/

/-- A location with a line loses what is in front of its job and nothing else. -/
theorem withoutSurroundings_line (job : List Char) (n : Nat) :
    withoutSurroundings (job ++ ':' :: Text.decimalChars n) =
      withoutFront job ++ ':' :: Text.decimalChars n := by
  have ends : EndStays (Text.trimStart job ++ ':' :: Text.decimalChars n) := by
    intro c last
    have member : c ∈ Text.decimalChars n := by
      rw [← List.singleton_append, ← List.append_assoc,
        List.getLast?_append_of_ne_nil _ (Text.decimalChars_ne_nil n)] at last
      exact List.mem_of_getLast? last
    exact Text.isBlank_of_isDigit (Text.isDigit_of_mem_decimalChars member)
  have front : Text.trimStart (job ++ ':' :: Text.decimalChars n) =
      Text.trimStart job ++ ':' :: Text.decimalChars n := dropWhile_append_stop (by decide)
  rw [withoutSurroundings, Text.trim, front, (trimEnd_eq_self_iff _).mpr ends]
  exact dropWhile_append_stop (by decide)

/-- A location with a line is read back exactly if it has a job whose front stays. -/
theorem parse_token_line_iff (job : String) (line : UInt64) :
    parse (token ⟨job, some line⟩) = .ok ⟨job, some line⟩ ↔
      job ≠ "" ∧ FrontStays job.toList := by
  have written : (token ⟨job, some line⟩).toList =
      job.toList ++ ':' :: Text.decimalChars line.toNat := String.toList_ofList
  have last : ':' ∉ Text.decimalChars line.toNat := by
    intro member
    exact absurd (Text.isDigit_of_mem_decimalChars member) (by decide)
  rw [parse_eq_ok_iff, written, withoutSurroundings_line, ← withoutFront_eq_self_iff]
  by_cases empty : withoutFront job.toList = []
  · have plain : ¬ NamesLine (':' :: Text.decimalChars line.toNat) := by
      rintro ⟨before, rest, whole, some_, -, -⟩
      obtain ⟨first, before, rfl⟩ := List.exists_cons_of_ne_nil some_
      rw [List.cons_append, List.cons.injEq] at whole
      exact last (whole.2 ▸ by simp)
    rw [empty, List.nil_append, ofChars_whole plain]
    constructor
    · rintro ⟨-, read⟩
      cases read
    · rintro ⟨some_, gone⟩
      exact absurd (String.toList_eq_nil_iff.mp gone.symm) some_
  · rw [ofChars_line empty last (Text.word?_decimalChars line)]
    have same : (⟨String.ofList (withoutFront job.toList), some line⟩ : DeepLink) = ⟨job, some line⟩ ↔
        withoutFront job.toList = job.toList := by
      rw [DeepLink.mk.injEq, ← String.toList_inj, String.toList_ofList]
      exact and_iff_left rfl
    rw [same]
    constructor
    · rintro ⟨-, kept⟩
      refine ⟨?_, kept⟩
      rintro rfl
      exact empty rfl
    · rintro ⟨-, kept⟩
      exact ⟨List.append_ne_nil_of_right_ne_nil _ (List.cons_ne_nil _ _), kept⟩

/-- A job alone is read back exactly if it is not empty, keeps its front and its end, and reads as no
line. -/
theorem parse_token_job_iff (job : String) :
    parse (token ⟨job, none⟩) = .ok ⟨job, none⟩ ↔
      job ≠ "" ∧ FrontStays job.toList ∧ EndStays job.toList ∧ ¬ NamesLine job.toList := by
  have written : (token ⟨job, none⟩).toList = job.toList := String.toList_ofList
  have filled : job ≠ "" ↔ job.toList ≠ [] := String.toList_eq_nil_iff.not.symm
  rw [parse_eq_ok_iff, written, ofChars_eq_job_iff, filled, ← and_assoc (a := FrontStays _),
    ← withoutSurroundings_eq_self_iff]
  constructor
  · rintro ⟨some_, kept, plain⟩
    rw [kept] at some_ plain
    exact ⟨some_, kept, plain⟩
  · rintro ⟨some_, kept, plain⟩
    rw [kept]
    exact ⟨some_, rfl, plain⟩

/-- A location is read back from its written form exactly if its job is not empty and begins with neither
white space nor a `#` sign, and, where there is no line, the job does not end in white space either and
does not end in a colon and a numeral after something else. With a line the job may hold any colons and
numerals. -/
theorem parse_token_iff (link : DeepLink) :
    parse link.token = .ok link ↔
      link.job ≠ "" ∧
        (∀ c, link.job.toList.head? = some c → Text.isBlank c = false ∧ c ≠ '#') ∧
        (link.line = none →
          (∀ c, link.job.toList.getLast? = some c → Text.isBlank c = false) ∧
          ¬ ∃ job line, link.job.toList = job ++ ':' :: line ∧ job ≠ [] ∧ ':' ∉ line ∧
            Text.Numeral line) := by
  obtain ⟨job, line⟩ := link
  cases line with
  | none =>
    rw [parse_token_job_iff]
    exact and_congr_right fun _ => and_congr_right fun _ => ⟨fun stays _ => stays, fun stays => stays rfl⟩
  | some line =>
    rw [parse_token_line_iff]
    exact and_congr_right fun _ => (and_iff_left (by simp)).symm

/-- Behind a line a numeral of the job stays with the job, and without one it becomes the line. -/
example : parse (token ⟨"a:5", some 7⟩) = .ok ⟨"a:5", some 7⟩ ∧
    parse (token ⟨"a:5", none⟩) = .ok ⟨"a", some 5⟩ := by decide +kernel

end LiveLog.DeepLink
