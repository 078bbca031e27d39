import LiveLog.Text.Basic

/-! The shareable location of a viewer: a job, or a line of a job. -/
namespace LiveLog

/-- A job and, where one is selected, a line of its log. -/
structure DeepLink where
  job : String
  line : Option UInt64
  deriving DecidableEq, Repr, Inhabited

/-- A location was asked for and no text was given. -/
inductive DeepLinkError where
  | empty
  deriving DecidableEq, Repr

/-- The error in words. -/
def DeepLinkError.message : DeepLinkError → String
  | .empty => "empty deep link"

namespace DeepLink

/-- The characters of the written form. -/
def chars (link : DeepLink) : List Char :=
  match link.line with
  | some line => link.job.toList ++ ':' :: Text.decimalChars line.toNat
  | none => link.job.toList

/-- The written form: `job`, or `job:line`. -/
def token (link : DeepLink) : String :=
  String.ofList link.chars

/-- What stands before and after the last colon. -/
def splitLastColon? (text : List Char) : Option (List Char × List Char) :=
  match text.reverse.dropWhile (· ≠ ':') with
  | _ :: before => some (before.reverse, (text.reverse.takeWhile (· ≠ ':')).reverse)
  | [] => none

/-- The location written by a text without surroundings. A job may hold colons itself, so that only a
number after the last one is a line. -/
def ofChars (text : List Char) : DeepLink :=
  let whole : DeepLink := ⟨String.ofList text, none⟩
  match splitLastColon? text with
  | some (job, line) =>
    if job.isEmpty then whole
    else match Text.word? line with
      | some line => ⟨String.ofList job, some line⟩
      | none => whole
  | none => whole

/-- Reads a location. White space around it and `#` signs in front of it do not belong to it. -/
def parse (text : String) : Except DeepLinkError DeepLink :=
  match (Text.trim text.toList).dropWhile (· = '#') with
  | [] => .error .empty
  | chars => .ok (ofChars chars)

end DeepLink

end LiveLog
