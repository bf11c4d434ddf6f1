/-!
# Fixed-width integer types

Twelve integer types: signed and unsigned, in five fixed widths and one pointer width, which is 64
bits. A value of a type is an integer together with a proof that it lies in the type's range, so no
operation of the library can wrap or clamp one.
-/

namespace Conversion

/-- Widths of the integer types. The pointer width has 64 bits and is still a width of its own. -/
inductive IntWidth where
  | w8
  | w16
  | w32
  | w64
  | w128
  | pointer
  deriving DecidableEq, Ord

namespace IntWidth

/-- Number of bits of a width. -/
def bits : IntWidth → Nat
  | w8 => 8
  | w16 => 16
  | w32 => 32
  | w64 => 64
  | w128 => 128
  | pointer => 64

/-- What follows the sign letter in a type's name. -/
def label : IntWidth → String
  | w8 => "8"
  | w16 => "16"
  | w32 => "32"
  | w64 => "64"
  | w128 => "128"
  | pointer => "size"

end IntWidth

/-- An integer type: whether it has negative values, and its width. -/
structure IntType where
  signed : Bool
  width : IntWidth
  deriving DecidableEq, Ord

namespace IntType

/-- The least value. -/
def lower (type : IntType) : Int :=
  if type.signed then -Nat.pow 2 (type.width.bits - 1) else 0

/-- The greatest value. -/
def upper (type : IntType) : Int :=
  if type.signed then Nat.pow 2 (type.width.bits - 1) - 1 else Nat.pow 2 type.width.bits - 1

/-- Whether a type can hold an integer. -/
def Holds (type : IntType) (number : Int) : Prop :=
  type.lower ≤ number ∧ number ≤ type.upper

instance (type : IntType) (number : Int) : Decidable (type.Holds number) :=
  inferInstanceAs (Decidable (_ ∧ _))

/-- Values of an integer type. -/
abbrev Carrier (type : IntType) : Type :=
  { number : Int // type.Holds number }

/-- Zero belongs to every integer type. -/
theorem holds_zero (type : IntType) : type.Holds 0 := by
  rcases type with ⟨signed, width⟩
  cases signed <;> cases width <;> decide

/-- The zero of a type. -/
def zero (type : IntType) : type.Carrier :=
  ⟨0, type.holds_zero⟩

/-- The name of a type, such as `u8` or `isize`. -/
def name (type : IntType) : String :=
  (if type.signed then "i" else "u") ++ type.width.label

/-- The integer types in their listing order: the signed ones by width, then the unsigned ones. -/
def all : List IntType :=
  [.w8, .w16, .w32, .w64, .w128, .pointer].map (IntType.mk true) ++
    [.w8, .w16, .w32, .w64, .w128, .pointer].map (IntType.mk false)

end IntType

end Conversion
