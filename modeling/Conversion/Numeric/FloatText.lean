import Conversion.Numeric.Shortest

/-!
# Floating-point numbers as text

Two layouts of the shortest decimal of a value. The positional one never has an exponent and leaves
out a fraction of zero; the scientific one, for diagnostics, always shows that the number is no
integer and turns to an exponent for very large and very small numbers.
-/

namespace Conversion

/-- The digits of a number. -/
def decimalDigits (number : Nat) : List Char :=
  Nat.toDigits 10 number

/-- A row of zeros. -/
def zeros (count : Nat) : List Char :=
  List.replicate count '0'

namespace ShortestDecimal

/-- The digits with the point that the exponent calls for. -/
def positional (decimal : ShortestDecimal) : List Char :=
  let digits := decimalDigits decimal.digits
  let point : Int := digits.length + decimal.exponent
  if 0 ≤ decimal.exponent then digits ++ zeros decimal.exponent.toNat
  else if 0 < point then digits.take point.toNat ++ ['.'] ++ digits.drop point.toNat
  else ['0', '.'] ++ zeros (-point).toNat ++ digits

/-- The exponent of ten of a first digit, with its sign. -/
def exponentText (exponent : Int) : List Char :=
  (if exponent < 0 then [] else ['+']) ++ (toString exponent).toList

/-- The digits with a point, and with an exponent where the point would be more than sixteen places
after the first digit or five or more places before it. -/
def scientific (decimal : ShortestDecimal) : List Char :=
  let digits := decimalDigits decimal.digits
  let point : Int := digits.length + decimal.exponent
  if 0 ≤ decimal.exponent ∧ point ≤ 16 then decimal.positional ++ ['.', '0']
  else if -5 < point ∧ point ≤ 16 then decimal.positional
  else
    let exponent := exponentText (point - 1)
    match digits with
    | [first] => [first, 'e'] ++ exponent
    | _ => digits.take 1 ++ ['.'] ++ digits.drop 1 ++ ['e'] ++ exponent

end ShortestDecimal

namespace FloatFormat

/-- A sign for negative values. -/
def signText (negative : Bool) : List Char :=
  if negative then ['-'] else []

/-- The text of a value without an exponent. -/
def display (format : FloatFormat) (pattern : format.Carrier) : String :=
  match format.decode pattern with
  | .nan => "NaN"
  | .infinite negative => if negative then "-inf" else "inf"
  | .finite negative 0 _ => String.ofList (signText negative ++ ['0'])
  | .finite negative significand exponent =>
      String.ofList
        (signText negative ++ (Shortest.ofFinite format .up significand exponent).positional)

/-- The text of a value that shows it is no integer. -/
def scientific (format : FloatFormat) (pattern : format.Carrier) : String :=
  match format.decode pattern with
  | .nan => "NaN"
  | .infinite negative => if negative then "-inf" else "inf"
  | .finite negative 0 _ => String.ofList (signText negative ++ ['0', '.', '0'])
  | .finite negative significand exponent =>
      String.ofList
        (signText negative ++ (Shortest.ofFinite format .even significand exponent).scientific)

end FloatFormat

end Conversion
