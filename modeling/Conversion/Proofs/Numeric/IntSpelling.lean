import Conversion.Proofs.Numeric.IntReading

/-!
# The texts of integers

An integer is written with one or more decimal digits, behind one sign or none. `IntType.Spells` is
this grammar together with the number that a text writes, in the range of the type or not. Reading
is the grammar cut to the range (`read_eq_ok_iff`): no text outside of the grammar is read, and a
text within it is read as no other number than its own.
-/

namespace Conversion

/-- Whether a text is one or more decimal digits. -/
structure IsNumeral (digits : List Char) : Prop where
  nonempty : digits ≠ []
  isDigit : ∀ char ∈ digits, char.isDigit = true

namespace IntType

/-- The texts of integers and the numbers that they write. The minus sign belongs to the signed
types, where it stands before a zero as well. -/
inductive Spells (type : IntType) : List Char → Int → Prop where
  | plain {digits : List Char} (numeral : IsNumeral digits) :
      Spells type digits (Nat.ofDigitChars 10 digits 0 : Nat)
  | plus {digits : List Char} (numeral : IsNumeral digits) :
      Spells type ('+' :: digits) (Nat.ofDigitChars 10 digits 0 : Nat)
  | minus {digits : List Char} (signed : type.signed = true) (numeral : IsNumeral digits) :
      Spells type ('-' :: digits) (-(Nat.ofDigitChars 10 digits 0 : Nat))

variable {type : IntType} {text digits : List Char} {number : type.Carrier} {value : Int}

namespace Spells

theorem isDigit_or_sign (spells : type.Spells text value) :
    ∀ char ∈ text, char.isDigit = true ∨ char = '+' ∨ char = '-' := by
  intro char charMem
  cases spells with
  | plain numeral => exact Or.inl (numeral.isDigit char charMem)
  | plus numeral =>
      rcases List.mem_cons.mp charMem with rfl | inDigits
      · exact Or.inr (Or.inl rfl)
      · exact Or.inl (numeral.isDigit char inDigits)
  | minus signed numeral =>
      rcases List.mem_cons.mp charMem with rfl | inDigits
      · exact Or.inr (Or.inr rfl)
      · exact Or.inl (numeral.isDigit char inDigits)

theorem plus_iff :
    type.Spells ('+' :: digits) value ↔
      IsNumeral digits ∧ value = withSign false (Nat.ofDigitChars 10 digits 0) := by
  constructor
  · intro spells
    cases spells with
    | plain numeral => exact absurd (numeral.isDigit '+' (by simp)) (by decide)
    | plus numeral => exact ⟨numeral, rfl⟩
  · rintro ⟨numeral, rfl⟩
    exact .plus numeral

theorem minus_iff :
    type.Spells ('-' :: digits) value ↔
      type.signed = true ∧ IsNumeral digits ∧
        value = withSign true (Nat.ofDigitChars 10 digits 0) := by
  constructor
  · intro spells
    cases spells with
    | plain numeral => exact absurd (numeral.isDigit '-' (by simp)) (by decide)
    | minus signed numeral => exact ⟨signed, numeral, rfl⟩
  · rintro ⟨signed, numeral, rfl⟩
    exact .minus signed numeral

theorem iff_of_unsigned (notPlus : ∀ digits, text ≠ '+' :: digits)
    (notMinus : ∀ digits, text ≠ '-' :: digits) :
    type.Spells text value ↔
      IsNumeral text ∧ value = withSign false (Nat.ofDigitChars 10 text 0) := by
  constructor
  · intro spells
    cases spells with
    | plain numeral => exact ⟨numeral, rfl⟩
    | plus numeral => exact absurd rfl (notPlus _)
    | minus signed numeral => exact absurd rfl (notMinus _)
  · rintro ⟨numeral, rfl⟩
    exact .plain numeral

end Spells

theorem readDigits_zero_eq_ok_iff {negative : Bool} (nonempty : digits ≠ []) :
    type.readDigits negative type.zero digits = .ok number ↔
      IsNumeral digits ∧ number.val = withSign negative (Nat.ofDigitChars 10 digits 0) := by
  rw [readDigits_eq_ok_iff (withSign_zero negative).symm]
  constructor
  · rintro ⟨isDigit, isValue⟩
    exact ⟨⟨nonempty, isDigit⟩, isValue⟩
  · rintro ⟨numeral, isValue⟩
    exact ⟨numeral.isDigit, isValue⟩

/-- Exactly the texts of the grammar that write a value of the type are read, each as what it
writes. -/
theorem read_eq_ok_iff : type.read text = .ok number ↔ type.Spells text number.val := by
  have noNumeral : ¬IsNumeral [] := fun numeral => numeral.nonempty rfl
  unfold read
  split
  · simp [Spells.iff_of_unsigned, noNumeral]
  · simp [Spells.plus_iff, noNumeral]
  · simp [Spells.minus_iff, noNumeral]
  · next digits notAlone =>
      have nonempty : digits ≠ [] := by
        rintro rfl
        exact notAlone rfl
      rw [Spells.plus_iff]
      exact readDigits_zero_eq_ok_iff nonempty
  · next digits notAlone =>
      have nonempty : digits ≠ [] := by
        rintro rfl
        exact notAlone rfl
      rw [Spells.minus_iff]
      split
      · next signed =>
          rw [and_iff_right signed]
          exact readDigits_zero_eq_ok_iff nonempty
      · next unsigned => simp [unsigned]
  · next nonempty _ _ notPlus notMinus =>
      rw [Spells.iff_of_unsigned notPlus notMinus]
      exact readDigits_zero_eq_ok_iff nonempty

end IntType

end Conversion
