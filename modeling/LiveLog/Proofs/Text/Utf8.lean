import LiveLog.Text.Utf8
import Mathlib.Data.List.Basic

/-! Reading UTF-8 gives back every text that was written in it, with no replacement. A byte below 0x80
is a character of its own there and part of no other, so bytes can be cut at such a character without
a look at the text. -/
namespace LiveLog.Text

/-- The bytes of a text in UTF-8. -/
def utf8 (text : String) : List UInt8 :=
  text.toUTF8.data.toList

theorem utf8_eq (text : String) : utf8 text = text.toList.flatMap String.utf8EncodeChar := by
  rw [utf8, String.toUTF8_eq_toByteArray, ← String.utf8Encode_toList, List.utf8Encode,
    List.data_toByteArray]

theorem utf8_append (first second : String) : utf8 (first ++ second) = utf8 first ++ utf8 second := by
  simp only [utf8_eq, String.toList_append, List.flatMap_append]

/-! ### One character -/

section
variable {v : Nat} {lead second third fourth : UInt8}

/-- A byte that begins a character of more than one byte. -/
private theorem lead_begins {n : Nat} (leads : lead.toNat = n) (low : 0xC2 ≤ n) (high : n ≤ 0xF4) :
    ¬ lead < 0x80 ∧ (lead < 0xC2 || 0xF4 < lead) = false := by
  simp only [UInt8.lt_iff_toNat_lt, UInt8.reduceToNat, leads, Bool.or_eq_false_iff,
    decide_eq_false_iff_not]
  omega

private theorem isContinuation_of_toNat {n : Nat} {b : UInt8} (tail : b.toNat = n % 64 + 128) :
    isContinuation b = true := by
  simp only [isContinuation, UInt8.le_iff_toNat_le, UInt8.reduceToNat, tail, Bool.and_eq_true,
    decide_eq_true_eq]
  omega

private theorem tailBits_of_toNat {n : Nat} {b : UInt8} (tail : b.toNat = n % 64 + 128) :
    tailBits b = n % 64 := by
  unfold tailBits
  omega

private theorem nextChar_one (leads : lead.toNat = v) (high : v < 0x80) (rest : List UInt8) :
    nextChar lead rest = (Char.ofNat v, rest) := by
  have ascii : lead < 0x80 := by
    rw [UInt8.lt_iff_toNat_lt, leads]
    exact high
  unfold nextChar
  rw [if_pos ascii, leads]

private theorem nextChar_two (leads : lead.toNat = v / 64 + 192)
    (seconds : second.toNat = v % 64 + 128) (low : 0x80 ≤ v) (high : v < 0x800)
    (rest : List UInt8) : nextChar lead (second :: rest) = (Char.ofNat v, rest) := by
  have value : (lead.toNat - 0xC0) * 0x40 + tailBits second = v := by
    rw [tailBits_of_toNat seconds]
    omega
  obtain ⟨long, begins⟩ := lead_begins leads (by omega) (by omega)
  have two : lead < 0xE0 := by
    simp only [UInt8.lt_iff_toNat_lt, UInt8.reduceToNat]
    omega
  simp [nextChar, long, begins, two, isContinuation_of_toNat seconds, value]

private theorem nextChar_three (leads : lead.toNat = v / 4096 + 224)
    (seconds : second.toNat = v / 64 % 64 + 128) (thirds : third.toNat = v % 64 + 128)
    (low : 0x800 ≤ v) (high : v < 0x10000) (valid : v < 0xD800 ∨ 0xDFFF < v) (rest : List UInt8) :
    nextChar lead (second :: third :: rest) = (Char.ofNat v, rest) := by
  have value : (lead.toNat - 0xE0) * 0x1000 + tailBits second * 0x40 + tailBits third = v := by
    rw [tailBits_of_toNat seconds, tailBits_of_toNat thirds]
    omega
  obtain ⟨long, begins⟩ := lead_begins leads (by omega) (by omega)
  have three : ¬ lead < 0xE0 ∧ lead < 0xF0 := by
    simp only [UInt8.lt_iff_toNat_lt, UInt8.reduceToNat]
    omega
  -- An overlong form would be below 0x800, and a surrogate is no character.
  have may : maySecond lead second = true := by
    simp only [maySecond, ← UInt8.toNat_inj, isContinuation_of_toNat seconds, UInt8.le_iff_toNat_le,
      UInt8.reduceToNat]
    repeat' split
    all_goals simp only [Bool.and_eq_true, decide_eq_true_eq] <;> omega
  simp [nextChar, long, begins, three, may, isContinuation_of_toNat thirds, value]

private theorem nextChar_four (leads : lead.toNat = v / 262144 + 240)
    (seconds : second.toNat = v / 4096 % 64 + 128) (thirds : third.toNat = v / 64 % 64 + 128)
    (fourths : fourth.toNat = v % 64 + 128) (low : 0x10000 ≤ v) (high : v < 0x110000)
    (rest : List UInt8) :
    nextChar lead (second :: third :: fourth :: rest) = (Char.ofNat v, rest) := by
  have value : (lead.toNat - 0xF0) * 0x40000 + tailBits second * 0x1000 + tailBits third * 0x40 +
      tailBits fourth = v := by
    rw [tailBits_of_toNat seconds, tailBits_of_toNat thirds, tailBits_of_toNat fourths]
    omega
  obtain ⟨long, begins⟩ := lead_begins leads (by omega) (by omega)
  have four : ¬ lead < 0xE0 ∧ ¬ lead < 0xF0 := by
    simp only [UInt8.lt_iff_toNat_lt, UInt8.reduceToNat]
    omega
  -- An overlong form would be below 0x10000, and no code point is above 0x10FFFF.
  have may : maySecond lead second = true := by
    simp only [maySecond, ← UInt8.toNat_inj, isContinuation_of_toNat seconds, UInt8.le_iff_toNat_le,
      UInt8.reduceToNat]
    repeat' split
    all_goals simp only [Bool.and_eq_true, decide_eq_true_eq] <;> omega
  simp [nextChar, long, begins, four, may, isContinuation_of_toNat thirds,
    isContinuation_of_toNat fourths, value]

end

private theorem byte_toNat {n : Nat} (small : n < 256) : (UInt8.ofNat n).toNat = n := by
  rw [UInt8.toNat_ofNat', Nat.mod_eq_of_lt small]

/-- The first character read is the first one written, whatever follows it. -/
theorem nextChar_encoded (c : Char) (rest : List UInt8) :
    ∃ lead tail, String.utf8EncodeChar c = lead :: tail ∧ nextChar lead (tail ++ rest) = (c, rest) := by
  have valid : c.val.toNat < 0xD800 ∨ 0xDFFF < c.val.toNat ∧ c.val.toNat < 0x110000 := c.valid
  have same : Char.ofNat c.val.toNat = c := c.ofNat_toNat
  unfold String.utf8EncodeChar
  generalize c.val.toNat = v at valid same
  subst same
  dsimp only
  split
  · exact ⟨_, _, rfl, nextChar_one (byte_toNat (by omega)) (by omega) rest⟩
  split
  · refine ⟨_, _, rfl, nextChar_two ?_ (byte_toNat (by omega)) (by omega) (by omega) rest⟩
    rw [byte_toNat] <;> omega
  split
  · refine ⟨_, _, rfl, nextChar_three ?_ (byte_toNat (by omega)) (byte_toNat (by omega)) (by omega)
      (by omega) (by omega) rest⟩
    rw [byte_toNat] <;> omega
  · refine ⟨_, _, rfl, nextChar_four ?_ (byte_toNat (by omega)) (byte_toNat (by omega))
      (byte_toNat (by omega)) (by omega) (by omega) rest⟩
    rw [byte_toNat] <;> omega

/-- A byte below 0x80 is a whole character. -/
theorem encoded_of_ascii {c : Char} {b : UInt8} (member : b ∈ String.utf8EncodeChar c)
    (ascii : b.toNat < 0x80) : String.utf8EncodeChar c = [b] ∧ c.toNat = b.toNat := by
  change _ ∧ c.val.toNat = _
  unfold String.utf8EncodeChar at member ⊢
  generalize c.val.toNat = v at member ⊢
  dsimp only at member ⊢
  by_cases small : v ≤ 0x7F
  · rw [if_pos small] at member ⊢
    rw [List.mem_singleton.mp member, byte_toNat (by omega)]
    exact ⟨rfl, rfl⟩
  · rw [if_neg small] at member
    have large : 0x80 ≤ b.toNat := by
      split at member
      · simp only [List.mem_cons, List.not_mem_nil, or_false, ← UInt8.toNat_inj,
          UInt8.toNat_ofNat'] at member
        omega
      split at member
      all_goals
        simp only [List.mem_cons, List.not_mem_nil, or_false, ← UInt8.toNat_inj,
          UInt8.toNat_ofNat'] at member
        omega
    exact absurd ascii (Nat.not_lt.mpr large)

/-! ### A whole text -/

theorem decodeLossyFrom_encoded (done chars : List Char) :
    decodeLossyFrom done (chars.flatMap String.utf8EncodeChar) = done.reverse ++ chars := by
  induction chars generalizing done with
  | nil => simp [decodeLossyFrom]
  | cons c chars ih =>
    obtain ⟨lead, tail, encoded, next⟩ := nextChar_encoded c (chars.flatMap String.utf8EncodeChar)
    rw [List.flatMap_cons, encoded, List.cons_append, decodeLossyFrom, next, ih]
    simp

theorem decodeLossy_utf8 (text : String) : decodeLossy (utf8 text) = text := by
  rw [decodeLossy, utf8_eq, decodeLossyFrom_encoded, List.reverse_nil, List.nil_append,
    String.ofList_toList]

theorem length_le_decodeLossyFrom (done : List Char) (bytes : List UInt8) :
    done.length ≤ (decodeLossyFrom done bytes).length := by
  fun_induction decodeLossyFrom done bytes with
  | case1 done => simp
  | case2 done lead rest ih => exact Nat.le_trans (Nat.le_succ _) ih

/-- Bytes are read as some text, if only as replacements. -/
theorem decodeLossy_ne_nil {bytes : List UInt8} (some_ : bytes ≠ []) :
    (decodeLossy bytes).toList ≠ [] := by
  obtain ⟨lead, rest, rfl⟩ := List.exists_cons_of_ne_nil some_
  rw [decodeLossy, String.toList_ofList, decodeLossyFrom]
  apply List.ne_nil_of_length_pos
  exact length_le_decodeLossyFrom [(nextChar lead rest).1] (nextChar lead rest).2

/-- A byte below 0x80 stands for a character of the text. -/
theorem mem_of_ascii_byte {text : String} {b : UInt8} (member : b ∈ utf8 text)
    (ascii : b.toNat < 0x80) : ∃ c ∈ text.toList, c.toNat = b.toNat := by
  rw [utf8_eq] at member
  obtain ⟨c, within, encoded⟩ := List.mem_flatMap.mp member
  exact ⟨c, within, (encoded_of_ascii encoded ascii).2⟩

/-- A byte below 0x80 at the end of a text is its last character. -/
theorem getLast_of_ascii_byte {text : String} {b : UInt8} (last : (utf8 text).getLast? = some b)
    (ascii : b.toNat < 0x80) : ∃ c, text.toList.getLast? = some c ∧ c.toNat = b.toNat := by
  rw [utf8_eq] at last
  rcases List.eq_nil_or_concat' text.toList with empty | ⟨chars, c, parts⟩
  · simp [empty] at last
  · refine ⟨c, by simp [parts], ?_⟩
    rw [parts, List.flatMap_append, List.flatMap_singleton,
      List.getLast?_append_of_ne_nil _ (String.utf8EncodeChar_ne_nil)] at last
    exact (encoded_of_ascii (List.mem_of_getLast? last) ascii).2

end LiveLog.Text
