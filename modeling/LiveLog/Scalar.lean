/-! The numbers of scroll geometry. The geometry is written once, over any type with the operations
below. On screen it runs on doubles; over the rationals it is exact. -/
namespace LiveLog

/-- What scroll geometry asks of its numbers: the four operations, a decidable order, and conversions
between numbers and counts. A conversion to a count stops at zero below. -/
class Scalar (α : Type) extends Add α, Sub α, Mul α, Div α, LE α, LT α where
  decLe : DecidableLE α
  decLt : DecidableLT α
  ofCount : Nat → α
  ofSteps : Int → α
  floorCount : α → Nat
  ceilCount : α → Nat
  /-- The integer part, towards zero. -/
  truncate : α → Int
  /-- The largest double: a target that lies beyond every list. -/
  largest : α

namespace Scalar

variable {α : Type} [Scalar α]

instance : DecidableLE α := decLe

instance : DecidableLT α := decLt

/-- No distance. -/
def zero : α := ofCount 0

/-- The number itself where it is above zero, and otherwise zero, also where it is no number. -/
def atLeastZero (x : α) : α :=
  if zero < x then x else zero

/-- The nearest number between two bounds. What compares with neither bound stays. -/
def clamp (low high x : α) : α :=
  if x < low then low else if high < x then high else x

/-- Doubles. Conversions to counts and integers saturate at the ends of 64-bit words. -/
instance : Scalar Float where
  decLe := Float.decLe
  decLt := Float.decLt
  ofCount := Float.ofNat
  ofSteps := Float.ofInt
  floorCount x := x.floor.toUInt64.toNat
  ceilCount x := x.ceil.toUInt64.toNat
  truncate x := x.toInt64.toInt
  largest := Float.ofBits 0x7FEFFFFFFFFFFFFF

/-- The integer part of a rational, towards zero. -/
def truncateRat (x : Rat) : Int :=
  if x < 0 then x.ceil else x.floor

/-- Exact numbers. -/
instance : Scalar Rat where
  decLe := inferInstance
  decLt := inferInstance
  ofCount n := Rat.ofInt (Int.ofNat n)
  ofSteps n := Rat.ofInt n
  floorCount x := x.floor.toNat
  ceilCount x := x.ceil.toNat
  truncate := truncateRat
  largest := Rat.ofInt (Int.ofNat ((Nat.pow 2 53 - 1) * Nat.pow 2 971))

end Scalar

end LiveLog
