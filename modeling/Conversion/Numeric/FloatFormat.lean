/-!
# Binary floating-point formats

The two interchange formats with 32 and 64 bits. A value is its bit pattern, so that the two zeros
and all the NaNs stay apart. `FloatFormat.decode` says what number a pattern stands for and
`FloatFormat.nearest` finds the pattern of the value nearest to a positive quotient; both are exact
integer arithmetic.
-/

namespace Conversion

/-- A binary interchange format. -/
inductive FloatFormat where
  | single
  | double
  deriving DecidableEq, Ord

/-- What a bit pattern stands for. A finite one is `significand * 2 ^ exponent` with its sign. -/
inductive FloatReading where
  | nan
  | infinite (negative : Bool)
  | finite (negative : Bool) (significand : Nat) (exponent : Int)
  deriving DecidableEq

namespace FloatFormat

/-- Number of fraction bits that a pattern stores. -/
def fractionBits : FloatFormat → Nat
  | single => 23
  | double => 52

/-- Number of exponent bits. -/
def exponentBits : FloatFormat → Nat
  | single => 8
  | double => 11

/-- Number of bits of a pattern. -/
def width : FloatFormat → Nat
  | single => 32
  | double => 64

/-- The name of the type of a format's values. -/
def name : FloatFormat → String
  | single => "f32"
  | double => "f64"

/-- Values of a format. -/
abbrev Carrier (format : FloatFormat) : Type :=
  BitVec format.width

/-- The exponent of the last place of the subnormal values, which is the least one. -/
def leastExponent (format : FloatFormat) : Int :=
  2 - Nat.pow 2 (format.exponentBits - 1) - format.fractionBits

/-- The pattern of positive infinity, as a number; patterns above it are NaNs. -/
def infinityPattern (format : FloatFormat) : Nat :=
  (Nat.pow 2 format.exponentBits - 1) * Nat.pow 2 format.fractionBits

/-- The pattern of a magnitude with a sign in front of it. -/
def withSign (format : FloatFormat) (negative : Bool) (magnitude : Nat) : format.Carrier :=
  BitVec.ofNat format.width
    (if negative then Nat.pow 2 (format.width - 1) + magnitude else magnitude)

/-- The magnitude part of a pattern: all of it but the sign bit. -/
def magnitude (format : FloatFormat) (pattern : format.Carrier) : Nat :=
  pattern.toNat % Nat.pow 2 (format.width - 1)

/-- Whether the sign bit is set. -/
def isNegative (format : FloatFormat) (pattern : format.Carrier) : Bool :=
  Nat.pow 2 (format.width - 1) ≤ pattern.toNat

/-- Whether a pattern stands for no number. -/
def isNaN (format : FloatFormat) (pattern : format.Carrier) : Bool :=
  format.infinityPattern < format.magnitude pattern

/-- A value differs from zero unless it is one of the two zeros; a NaN does too. -/
def isNonzero (format : FloatFormat) (pattern : format.Carrier) : Bool :=
  format.magnitude pattern ≠ 0

/-- The number that a pattern stands for. -/
def decode (format : FloatFormat) (pattern : format.Carrier) : FloatReading :=
  let negative := format.isNegative pattern
  let magnitude := format.magnitude pattern
  if format.infinityPattern < magnitude then .nan
  else if magnitude = format.infinityPattern then .infinite negative
  else
    let fraction := magnitude % Nat.pow 2 format.fractionBits
    let biased := magnitude / Nat.pow 2 format.fractionBits
    if biased = 0 then .finite negative fraction format.leastExponent
    else
      .finite negative (Nat.pow 2 format.fractionBits + fraction)
        (format.leastExponent + (biased - 1))

/-- The quotient rounded to the nearest whole number, a half to the even one. -/
def roundHalfEven (numerator denominator : Nat) : Nat :=
  let quotient := numerator / denominator
  let rest := 2 * (numerator % denominator)
  if rest < denominator then quotient
  else if denominator < rest then quotient + 1
  else quotient + quotient % 2

/-- The greatest `k` with `2 ^ k ≤ numerator / denominator`, for a positive quotient. -/
def floorLog2 (numerator denominator : Nat) : Int :=
  let estimate : Int := (numerator.log2 : Int) - denominator.log2
  if denominator * Nat.pow 2 estimate.toNat ≤ numerator * Nat.pow 2 (-estimate).toNat then
    estimate
  else estimate - 1

/-- The magnitude pattern of the value nearest to a positive quotient, ties to the even
significand. A quotient past the greatest finite value by half a place or more is infinite. The
exponent field sits above the fraction, so a significand that rounds up to the next power of two
carries into it and needs no case of its own. -/
def nearest (format : FloatFormat) (numerator denominator : Nat) : Nat :=
  let exponent :=
    max format.leastExponent (floorLog2 numerator denominator - format.fractionBits)
  let significand :=
    roundHalfEven (numerator * Nat.pow 2 (-exponent).toNat)
      (denominator * Nat.pow 2 exponent.toNat)
  min format.infinityPattern
    ((exponent - format.leastExponent).toNat * Nat.pow 2 format.fractionBits + significand)

end FloatFormat

end Conversion
