import Conversion.Proofs.Builtin.Truth

/-!
# Texts, integers and truth values

A text can be read as a truth value and as an integer, and an integer has a truth value of its own.
Three conversions that know nothing of each other meet here, and the reason why they agree is that
the two readings have hardly a text in common: an integer is written without letters, so its text is
its own word, and of the eight words for truth values only one and zero are integers
(`number_of_truth`). So the way over the integer leads to the truth value of the text, for any text
(`truth_by_way_of_integer`) and in particular for the one that an integer is written as.
-/

namespace Conversion

variable {type : IntType} {text : List Char} {value : Int}

theorem Text.toLower_of_isDigit {char : Char} (digit : char.isDigit = true) :
    char.toLower = char := by
  rw [Char.isDigit, Bool.and_eq_true, decide_eq_true_eq, decide_eq_true_eq] at digit
  have small : char.toNat ≤ 57 := digit.2
  apply toLower_of_not_isUpper
  intro upper
  have great := (bounds_of_isUpper upper).1
  omega

/-- The text of an integer has no letters. -/
theorem IntType.Spells.map_toLower (spells : type.Spells text value) :
    text.map Char.toLower = text := by
  have fixed : ∀ char ∈ text, char.toLower = char := by
    intro char charMem
    rcases spells.isDigit_or_sign char charMem with digit | rfl | rfl
    · exact Text.toLower_of_isDigit digit
    · rfl
    · rfl
  simpa using List.map_congr_left fixed

/-- Whether a character can stand in the text of an integer. -/
def isDigitOrSign (char : Char) : Bool :=
  char.isDigit || char == '+' || char == '-'

theorem IntType.Spells.all_isDigitOrSign (spells : type.Spells text value) :
    text.all isDigitOrSign = true := by
  simpa [isDigitOrSign, or_assoc] using spells.isDigit_or_sign

namespace Builtin

open Conversion.Registry

variable {registry : Registry}

theorem value_of_trueWord {word : String} (isWord : word ∈ trueWords)
    (spells : type.Spells word.toList value) : value = 1 := by
  have oneOrOther : ∀ word ∈ trueWords,
      word = "1" ∨ word.toList.all isDigitOrSign = false := by
    decide
  rcases oneOrOther word isWord with rfl | other
  · have one : type.Spells ['1'] value := spells
    cases one with
    | plain numeral => rfl
  · simp [spells.all_isDigitOrSign] at other

theorem value_of_falseWord {word : String} (isWord : word ∈ falseWords)
    (spells : type.Spells word.toList value) : value = 0 := by
  have zeroOrOther : ∀ word ∈ falseWords,
      word = "0" ∨ word.toList.all isDigitOrSign = false := by
    decide
  rcases zeroOrOther word isWord with rfl | other
  · have zero : type.Spells ['0'] value := spells
    cases zero with
    | plain numeral => rfl
  · simp [spells.all_isDigitOrSign] at other

/-- A text that is a truth value and an integer is one for true and zero for false. -/
theorem number_of_truth {text : String} {truth : Bool} {number : type.Carrier}
    (isTruth : truthOf text = .ok truth) (isInteger : integerOf type text = .ok number) :
    number.val = if truth then 1 else 0 := by
  have spells : type.Spells (Text.trim text.toList) number.val := by
    rw [IntType.spells_trim_iff]
    exact integerOf_eq_ok_iff.mp isInteger
  have means : Means text (String.ofList (Text.trim text.toList)) := by
    rw [means_iff, spells.map_toLower]
  have spelled : type.Spells (String.ofList (Text.trim text.toList)).toList number.val := by
    rwa [String.toList_ofList]
  cases truth with
  | true => exact value_of_trueWord ((truthOf_eq_ok_true_iff means).mp isTruth) spelled
  | false => exact value_of_falseWord ((truthOf_eq_ok_false_iff means).mp isTruth) spelled

theorem truth_of_number {text : String} {truth : Bool} {number : type.Carrier}
    (isTruth : truthOf text = .ok truth) (isInteger : integerOf type text = .ok number) :
    decide (number.val ≠ 0) = truth := by
  have isNumber := number_of_truth isTruth isInteger
  cases truth <;> simp [isNumber]

theorem integerOf_display (number : type.Carrier) :
    integerOf type (TypeKey.display (.int type) number) = .ok number := by
  simp only [integerOf, TypeKey.display, Text.trim_eq_self not_isBlank_of_mem_toString,
    IntType.read_toString]
  rfl

theorem convert_int_bool (standard : IsStandard registry) (number : type.Carrier) :
    (convert (.int type) .bool number registry).result = .ok (decide (number.val ≠ 0)) :=
  convert_of_serving standard rfl rfl

/-- Where a text is both a truth value and an integer, the integer has the truth value of the text,
which is false for zero alone. The text that an integer is written as may be no truth value; if it
is one, it is again that of the integer. -/
theorem truth_by_way_of_integer (builder : Builder) (serial : Nat)
    (areBuiltin : AreBuiltin builder.registrars)
    (undeclared : ∀ key, key.IsBuiltin = true →
      (builder.assemble serial).types.isDeclared key = false) :
    let built := builder.build serial
    built.result = .ok () ∧
      ∀ registry, Remembers built.registry registry →
        ∀ (type : IntType) (number : type.Carrier),
          let ownTruth := (convert (.int type) .bool number registry).result
          (ownTruth = .ok false ↔ number.val = 0) ∧
            (∀ (text : String) truth,
              (convert .string .bool text registry).result = .ok truth →
                (convert .string (.int type) text registry).result = .ok number →
                  ownTruth = .ok truth) ∧
            (∀ (text : String) truth,
              (convert .str .bool text registry).result = .ok truth →
                (convert .str (.int type) text registry).result = .ok number →
                  ownTruth = .ok truth) ∧
            ∃ text, (convert (.int type) .string number registry).result = .ok text ∧
              ∀ truth, (convert .string .bool text registry).result = .ok truth ∨
                  (convert .str .bool text registry).result = .ok truth →
                ownTruth = .ok truth := by
  intro built
  rcases isStandard_of_build serial areBuiltin undeclared with ⟨succeeded, isStandard⟩
  refine ⟨succeeded, ?_⟩
  intro registry remembers type number ownTruth
  have standard := isStandard registry remembers
  have isOwn : ownTruth = .ok (decide (number.val ≠ 0)) := convert_int_bool standard number
  have agrees {text : String} {truth : Bool} (isTruth : truthOf text = .ok truth)
      (isInteger : integerOf type text = .ok number) : ownTruth = .ok truth := by
    rw [isOwn, truth_of_number isTruth isInteger]
  refine ⟨?_, ?_, ?_, TypeKey.display (.int type) number, ?_, ?_⟩
  · have isZero : (.ok (decide (number.val ≠ 0)) : Except ConvertError Bool) = .ok false ↔
        number.val = 0 := by simp
    rw [isOwn]
    exact isZero
  · intro text truth isTruth isInteger
    rw [(convert_text_bool standard text).1] at isTruth
    rw [(convert_text_int standard type text).1] at isInteger
    exact agrees isTruth isInteger
  · intro text truth isTruth isInteger
    rw [(convert_text_bool standard text).2] at isTruth
    rw [(convert_text_int standard type text).2] at isInteger
    exact agrees isTruth isInteger
  · exact convert_of_serving standard rfl (convert_number rfl)
  · intro truth isTruth
    rw [(convert_text_bool standard _).1, (convert_text_bool standard _).2, or_self] at isTruth
    exact agrees isTruth (integerOf_display number)

theorem truth_by_way_of_padded_one :
    let registry := (rulesFirst.build 0).registry
    let one : widest.Carrier := ⟨1, by decide⟩
    (convert .str .bool " 1\n" registry).result = .ok true ∧
      (convert .str (.int widest) " 1\n" registry).result = .ok one ∧
      (convert (.int widest) .bool one registry).result = .ok true ∧
      ¬(convert (.int widest) .bool one registry).result = .ok false := by
  intro registry one
  have remembers := Remembers.refl registry
  rcases isStandard_of_build 0 (Or.inr rfl) undeclared_rulesFirst with ⟨_, isStandard⟩
  have standard := isStandard registry remembers
  have isTruth := (convert_text_bool standard " 1\n").2
  have isInteger := (convert_text_int standard widest " 1\n").2
  rcases truth_by_way_of_integer rulesFirst 0 (Or.inr rfl) undeclared_rulesFirst with ⟨_, agrees⟩
  rcases agrees registry remembers widest one with ⟨isZero, _, borrowed, _⟩
  have truth : truthOf " 1\n" = .ok true := by decide +kernel
  have integer : integerOf widest " 1\n" = .ok one := by decide +kernel
  rw [truth] at isTruth
  rw [integer] at isInteger
  exact ⟨isTruth, isInteger, borrowed " 1\n" true isTruth isInteger, mt isZero.mp (by decide)⟩

end Builtin

end Conversion
