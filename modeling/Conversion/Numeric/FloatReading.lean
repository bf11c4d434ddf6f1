import Conversion.Numeric.FloatFormat
import Conversion.Numeric.IntReading

/-!
# Reading floating-point numbers

A number text is an optional sign, then either one of the words for infinity and NaN in any case, or
digits with an optional point and an optional exponent. At least one digit stands before or after
the point, and at least one in an exponent. The value is the one nearest to the decimal, ties to
even; a decimal past the range is infinite, and a sign is kept on a zero.
-/

namespace Conversion

/-- Why a text is no floating-point number. -/
inductive FloatReadError where
  | empty
  | invalid
  deriving DecidableEq

/-- What an error says. -/
def FloatReadError.message : FloatReadError → String
  | empty => "cannot parse float from empty string"
  | invalid => "invalid float literal"

/-- A decimal number `digits * 10 ^ exponent`, with the digits read as one number. -/
structure Decimal where
  digits : List Nat
  exponent : Int
  deriving DecidableEq

namespace Decimal

/-- The decimal digits at the front of a text, and what follows them. -/
def splitDigits : List Char → List Nat × List Char
  | [] => ([], [])
  | char :: rest =>
      match digitValue? char with
      | none => ([], char :: rest)
      | some digit =>
          let (digits, after) := splitDigits rest
          (digit :: digits, after)

/-- The number that digits write down. -/
def ofDigits (digits : List Nat) : Nat :=
  digits.foldl (fun number digit => number * 10 + digit) 0

/-- The number that the digits of an exponent write down. Past 65535 no further digit counts: the
value is zero or infinite by then. -/
def exponentOfDigits (digits : List Nat) : Nat :=
  digits.foldl (fun number digit => if number < 65536 then number * 10 + digit else number) 0

/-- Reads what follows the mark of an exponent. -/
def readExponent (text : List Char) : Option Int :=
  let (negative, unsigned) :=
    match text with
    | '-' :: rest => (true, rest)
    | '+' :: rest => (false, rest)
    | _ => (false, text)
  match splitDigits unsigned with
  | ([], _) => none
  | (digits, []) =>
      let number : Int := exponentOfDigits digits
      some (if negative then -number else number)
  | (_, _ :: _) => none

/-- Reads a decimal number without a sign. -/
def read (text : List Char) : Option Decimal :=
  let (whole, afterWhole) := splitDigits text
  let (fraction, afterFraction) :=
    match afterWhole with
    | '.' :: rest => splitDigits rest
    | _ => ([], afterWhole)
  let digits := whole ++ fraction
  if digits.isEmpty then none
  else
    match afterFraction with
    | [] => some ⟨digits, -fraction.length⟩
    | mark :: rest =>
        if mark = 'e' ∨ mark = 'E' then
          (readExponent rest).map fun exponent => ⟨digits, exponent - fraction.length⟩
        else none

/-- The magnitude pattern of the value nearest to a decimal. A first digit that stands more than
four hundred places from the point settles the value without any arithmetic. -/
def nearest (decimal : Decimal) (format : FloatFormat) : Nat :=
  let digits := decimal.digits.dropWhile (· = 0)
  if digits.isEmpty then 0
  else if 400 < digits.length + decimal.exponent then format.infinityPattern
  else if digits.length + decimal.exponent < -400 then 0
  else
    format.nearest (ofDigits digits * Nat.pow 10 decimal.exponent.toNat)
      (Nat.pow 10 (-decimal.exponent).toNat)

end Decimal

namespace FloatFormat

/-- The magnitude pattern of the NaN that a text stands for. -/
def quietPattern (format : FloatFormat) : Nat :=
  format.infinityPattern + Nat.pow 2 (format.fractionBits - 1)

/-- Reads a magnitude: a word or a decimal number. -/
def readMagnitude (format : FloatFormat) (text : List Char) : Option Nat :=
  let word := String.ofList (text.map Char.toLower)
  if word = "inf" ∨ word = "infinity" then some format.infinityPattern
  else if word = "nan" then some format.quietPattern
  else (Decimal.read text).map (Decimal.nearest · format)

/-- Reads a value of a format. -/
def read (format : FloatFormat) (text : List Char) : Except FloatReadError format.Carrier :=
  let (negative, unsigned) :=
    match text with
    | '-' :: rest => (true, rest)
    | '+' :: rest => (false, rest)
    | _ => (false, text)
  if text.isEmpty then .error .empty
  else
    match format.readMagnitude unsigned with
    | some magnitude => .ok (format.withSign negative magnitude)
    | none => .error .invalid

end FloatFormat

end Conversion
