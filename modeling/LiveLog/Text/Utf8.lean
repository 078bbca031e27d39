/-! Reading bytes as UTF-8 text. Bytes that belong to no character are replaced: every longest
beginning of a character that the next byte does not continue becomes one replacement character, and
so does every byte that cannot begin a character. -/
namespace LiveLog.Text

/-- The character that stands for bytes that are no text. -/
def replacement : Char := '\ufffd'

/-- Bytes after the first of a character. -/
def isContinuation (b : UInt8) : Bool :=
  0x80 ≤ b && b ≤ 0xBF

/-- Whether a byte may follow the first byte of a character of three or four bytes. The bounds leave
out overlong forms, surrogates and code points above the last one. -/
def maySecond (lead second : UInt8) : Bool :=
  if lead = 0xE0 then 0xA0 ≤ second && second ≤ 0xBF
  else if lead = 0xED then 0x80 ≤ second && second ≤ 0x9F
  else if lead = 0xF0 then 0x90 ≤ second && second ≤ 0xBF
  else if lead = 0xF4 then 0x80 ≤ second && second ≤ 0x8F
  else isContinuation second

/-- The six payload bits of a continuation byte. -/
def tailBits (b : UInt8) : Nat :=
  b.toNat - 0x80

/-- The first character of the bytes `lead :: rest`, and the bytes after it. -/
def nextChar (lead : UInt8) (rest : List UInt8) : Char × List UInt8 :=
  if lead < 0x80 then (Char.ofNat lead.toNat, rest)
  else if lead < 0xC2 || 0xF4 < lead then (replacement, rest)
  else match rest with
    | [] => (replacement, [])
    | second :: rest₂ =>
      if lead < 0xE0 then
        if isContinuation second then
          (Char.ofNat ((lead.toNat - 0xC0) * 0x40 + tailBits second), rest₂)
        else (replacement, rest)
      else if !maySecond lead second then (replacement, rest)
      else match rest₂ with
        | [] => (replacement, [])
        | third :: rest₃ =>
          if !isContinuation third then (replacement, rest₂)
          else if lead < 0xF0 then
            (Char.ofNat ((lead.toNat - 0xE0) * 0x1000 + tailBits second * 0x40 + tailBits third),
              rest₃)
          else match rest₃ with
            | [] => (replacement, [])
            | fourth :: rest₄ =>
              if isContinuation fourth then
                (Char.ofNat ((lead.toNat - 0xF0) * 0x40000 + tailBits second * 0x1000 +
                  tailBits third * 0x40 + tailBits fourth), rest₄)
              else (replacement, rest₃)

/-- Reading one character never lengthens what is left. -/
theorem nextChar_length_le (lead : UInt8) (rest : List UInt8) :
    (nextChar lead rest).2.length ≤ rest.length := by
  unfold nextChar
  repeat' split
  all_goals simp <;> omega

/-- Reads all bytes; `done` holds the characters already read, last first. -/
def decodeLossyFrom (done : List Char) (bytes : List UInt8) : List Char :=
  match bytes with
  | [] => done.reverse
  | lead :: rest =>
    decodeLossyFrom ((nextChar lead rest).1 :: done) (nextChar lead rest).2
termination_by bytes.length
decreasing_by
  have := nextChar_length_le lead rest
  simp only [List.length_cons]
  omega

/-- The text of a byte string, with replacements where it is no UTF-8. -/
def decodeLossy (bytes : List UInt8) : String :=
  String.ofList (decodeLossyFrom [] bytes)

end LiveLog.Text
