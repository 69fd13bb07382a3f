/-!
Ordinates as IEEE-754 binary64 bit patterns. Equality of the type is equality of bits; the numeric
comparisons of the standard are separate functions, read off the sign and the magnitude field.
-/

set_option autoImplicit false

namespace GeoWire

/-- One ordinate of a coordinate: the 64 bits of a double, NaN payloads included. -/
structure Ordinate where
  /-- Sign, exponent and fraction, most significant bit first. -/
  bits : UInt64
deriving DecidableEq, Repr

namespace Ordinate

/-- The quiet NaN that stands for an ordinate that was not given. -/
def missing : Ordinate := ⟨0x7ff8000000000000⟩

/-- The exponent and fraction fields as one number; larger means further from zero. -/
def magnitude (ordinate : Ordinate) : Nat :=
  ordinate.bits.toNat % 0x8000000000000000

def isNegated (ordinate : Ordinate) : Bool :=
  0x8000000000000000 ≤ ordinate.bits.toNat

/-- A NaN has all exponent bits set and a fraction other than zero. -/
def isNaN (ordinate : Ordinate) : Bool :=
  0x7ff0000000000000 < ordinate.magnitude

/-- The place of a number in the order of doubles. Both zeros have rank 0. -/
def rank (ordinate : Ordinate) : Int :=
  if ordinate.isNegated then -ordinate.magnitude else ordinate.magnitude

/-- Numeric equality: no NaN equals anything and the two zeros are equal. -/
def ieeeEq (left right : Ordinate) : Bool :=
  !left.isNaN && !right.isNaN && left.rank == right.rank

/-- Numeric order: no NaN is below or above anything. -/
def ieeeLt (left right : Ordinate) : Bool :=
  !left.isNaN && !right.isNaN && decide (left.rank < right.rank)

def isNegative (ordinate : Ordinate) : Bool :=
  !ordinate.isNaN && decide (ordinate.rank < 0)

def toFloat (ordinate : Ordinate) : Float :=
  .ofBits ordinate.bits

/-- Numeric equality under which, in addition, any NaN matches any NaN. -/
def coincides (left right : Ordinate) : Bool :=
  left.ieeeEq right || (left.isNaN && right.isNaN)

/-- Compare optional ordinates: both absent, or both there and alike. -/
def matchOptional (alike : Ordinate → Ordinate → Bool) :
    Option Ordinate → Option Ordinate → Bool
  | some left, some right => alike left right
  | none, none => true
  | _, _ => false

@[simp] theorem coincides_refl (ordinate : Ordinate) : ordinate.coincides ordinate = true := by
  cases isNaN : ordinate.isNaN <;> simp [coincides, ieeeEq, isNaN]

@[simp] theorem matchOptional_coincides_refl (ordinate? : Option Ordinate) :
    matchOptional coincides ordinate? ordinate? = true := by
  cases ordinate? <;> simp [matchOptional]

end Ordinate

end GeoWire
