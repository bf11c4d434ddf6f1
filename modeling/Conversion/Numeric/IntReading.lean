import Conversion.Numeric.IntType

/-!
# Reading integers

An integer text is one or more decimal digits after an optional sign; the minus sign is a sign only
for a signed type. Digits are taken from left to right and the number read so far must stay in the
range of the type, so of two faults the one further left is reported.
-/

namespace Conversion

/-- Why a text is no integer of a type. -/
inductive IntReadError where
  | empty
  | invalidDigit
  | tooLarge
  | tooSmall
  deriving DecidableEq

/-- What an error says. -/
def IntReadError.message : IntReadError → String
  | empty => "cannot parse integer from empty string"
  | invalidDigit => "invalid digit found in string"
  | tooLarge => "number too large to fit in target type"
  | tooSmall => "number too small to fit in target type"

/-- The value of a decimal digit. -/
def digitValue? (char : Char) : Option Nat :=
  if char.isDigit then some (char.toNat - '0'.toNat) else none

namespace IntType

/-- Reads the digits that follow the number read so far, away from zero. -/
def readDigits (type : IntType) (negative : Bool) :
    type.Carrier → List Char → Except IntReadError type.Carrier
  | read, [] => .ok read
  | read, char :: rest =>
      match digitValue? char with
      | none => .error .invalidDigit
      | some digit =>
          let next := read.val * 10 + (if negative then -(digit : Int) else digit)
          if held : type.Holds next then type.readDigits negative ⟨next, held⟩ rest
          else .error (if negative then .tooSmall else .tooLarge)

/-- Reads an integer of a type. A sign alone has no digit, so it is an invalid digit itself. -/
def read (type : IntType) (text : List Char) : Except IntReadError type.Carrier :=
  match text with
  | [] => .error .empty
  | ['+'] => .error .invalidDigit
  | ['-'] => .error .invalidDigit
  | '+' :: digits => type.readDigits false type.zero digits
  | '-' :: digits =>
      if type.signed then type.readDigits true type.zero digits
      else .error .invalidDigit
  | digits => type.readDigits false type.zero digits

end IntType

end Conversion
