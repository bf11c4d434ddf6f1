import Conversion.Numeric.IntReading

/-!
# Which digits are read

Digits are read into a number that has to stay in the range of its type after each of them. As each
digit takes the number away from zero, and zero is in every range, it is enough that the last number
is in range (`readDigits_eq_ok_iff`). So the decimal digits of a value are read as that value, at
either end of the range too (`read_toString`).
-/

namespace Conversion

/-- The number with a magnitude and a sign. -/
def withSign (negative : Bool) (magnitude : Nat) : Int :=
  if negative then -(magnitude : Int) else magnitude

@[simp]
theorem withSign_true (magnitude : Nat) : withSign true magnitude = -(magnitude : Int) :=
  rfl

@[simp]
theorem withSign_false (magnitude : Nat) : withSign false magnitude = (magnitude : Int) :=
  rfl

@[simp]
theorem withSign_zero (negative : Bool) : withSign negative 0 = 0 := by
  cases negative <;> rfl

theorem withSign_mul_ten_add (negative : Bool) (magnitude digit : Nat) :
    withSign negative magnitude * 10 + (if negative then -(digit : Int) else digit) =
      withSign negative (10 * magnitude + digit) := by
  cases negative <;> simp <;> omega

theorem digitValue?_of_isDigit {char : Char} (digit : char.isDigit = true) :
    digitValue? char = some (char.toNat - '0'.toNat) :=
  if_pos digit

theorem digitValue?_of_not_isDigit {char : Char} (other : ¬char.isDigit = true) :
    digitValue? char = none :=
  if_neg other

/-- Digits never make a number smaller. -/
theorem le_ofDigitChars (digits : List Char) (read : Nat) :
    read ≤ Nat.ofDigitChars 10 digits read := by
  have shifted : read ≤ 10 ^ digits.length * read :=
    Nat.le_mul_of_pos_left read (Nat.pow_pos (by decide))
  rw [Nat.ofDigitChars_eq_ofDigitChars_zero]
  omega

theorem toList_toString (number : Int) :
    (toString number).toList =
      (if number < 0 then ['-'] else []) ++ Nat.toDigits 10 number.natAbs := by
  by_cases negative : number < 0
  · have magnitude : (-number).toNat = number.natAbs := by omega
    simp [Int.repr_eq_if, negative, Int.not_le.mpr negative, magnitude]
  · have magnitude : number.toNat = number.natAbs := by omega
    simp [Int.repr_eq_if, negative, Int.not_lt.mp negative, magnitude]

theorem isDigit_of_mem_toDigits {magnitude : Nat} {char : Char}
    (charMem : char ∈ Nat.toDigits 10 magnitude) : char.isDigit = true :=
  Nat.isDigit_of_mem_toDigits (by decide) (by decide) charMem

namespace IntType

variable {type : IntType} {negative : Bool}

/-- What lies between zero and a value of a type is a value of the type. -/
theorem holds_of_le {small great : Nat} (le : small ≤ great)
    (holds : type.Holds (withSign negative great)) : type.Holds (withSign negative small) := by
  rcases type.holds_zero with ⟨lowerZero, zeroUpper⟩
  rcases holds with ⟨lowerGreat, greatUpper⟩
  cases negative with
  | false =>
      rw [withSign_false] at *
      constructor <;> omega
  | true =>
      rw [withSign_true] at *
      constructor <;> omega

theorem readDigits_eq_ok_iff {digits : List Char} {read number : type.Carrier} {magnitude : Nat}
    (isRead : read.val = withSign negative magnitude) :
    type.readDigits negative read digits = .ok number ↔
      (∀ char ∈ digits, char.isDigit = true) ∧
        number.val = withSign negative (Nat.ofDigitChars 10 digits magnitude) := by
  induction digits generalizing read magnitude with
  | nil =>
      rw [readDigits, Except.ok.injEq, Subtype.ext_iff, isRead, Nat.ofDigitChars_nil, eq_comm]
      simp
  | cons char rest ih =>
      rw [List.forall_mem_cons]
      by_cases digit : char.isDigit = true
      · simp only [readDigits, digitValue?_of_isDigit digit, isRead, withSign_mul_ten_add,
          Nat.ofDigitChars_cons, digit, true_and]
        split
        · exact ih rfl
        · next unheld =>
            -- the value of all digits would be out of range as well
            have tooFar : number.val ≠ withSign negative
                (Nat.ofDigitChars 10 rest (10 * magnitude + (char.toNat - '0'.toNat))) := by
              intro same
              apply unheld
              apply holds_of_le (le_ofDigitChars rest _)
              rw [← same]
              exact number.property
            constructor
            · intro read
              cases read
            · rintro ⟨_, same⟩
              exact absurd same tooFar
      · simp [readDigits, digitValue?_of_not_isDigit digit, digit]

/-- A text that begins with a digit is read without a sign. -/
theorem read_of_isDigit {first : Char} {rest : List Char} (digit : first.isDigit = true) :
    type.read (first :: rest) = type.readDigits false type.zero (first :: rest) := by
  unfold read
  split <;> simp_all

theorem read_minus {first : Char} {rest : List Char} (signed : type.signed = true) :
    type.read ('-' :: first :: rest) = type.readDigits true type.zero (first :: rest) := by
  simp [read, signed]

theorem readDigits_toDigits {number : type.Carrier} {magnitude : Nat}
    (isNumber : number.val = withSign negative magnitude) :
    type.readDigits negative type.zero (Nat.toDigits 10 magnitude) = .ok number := by
  have zero : type.zero.val = withSign negative 0 := (withSign_zero negative).symm
  apply (readDigits_eq_ok_iff zero).mpr
  constructor
  · intro char charMem
    exact isDigit_of_mem_toDigits charMem
  · rw [Nat.ofDigitChars_ten_toDigits]
    exact isNumber

theorem signed_of_neg {number : type.Carrier} (negative : number.val < 0) : type.signed = true := by
  cases signed : type.signed with
  | true => rfl
  | false =>
      have lower := number.property.1
      simp only [IntType.lower, signed] at lower
      exact absurd negative (Int.not_lt.mpr lower)

/-- The text of a value is read as the value. -/
theorem read_toString (number : type.Carrier) :
    type.read (toString number.val).toList = .ok number := by
  rw [toList_toString]
  cases written : Nat.toDigits 10 number.val.natAbs with
  | nil => exact absurd written Nat.toDigits_ne_nil
  | cons first rest =>
      split
      · next negative =>
          refine (read_minus (signed_of_neg negative)).trans ?_
          rw [← written]
          apply readDigits_toDigits
          rw [withSign_true]
          omega
      · next nonnegative =>
          have digit : first.isDigit = true := by
            apply isDigit_of_mem_toDigits
            rw [written]
            exact List.mem_cons_self
          refine (read_of_isDigit digit).trans ?_
          rw [← written]
          apply readDigits_toDigits
          rw [withSign_false]
          omega

end IntType

end Conversion
