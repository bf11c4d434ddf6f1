import Conversion.Proofs.Builtin.RoundTrip
import Conversion.Proofs.Numeric.IntSpelling
import Conversion.Proofs.Text.Trimming

/-!
# Which texts are integers

An integer is read from owned and from borrowed text by two rules, and both trim the text and read
what is left. On a registry with the built-in registrars that is all there is to the conversion
(`convert_text_int`). Since no text of an integer has white space in it, a text is read exactly if
it is one of those with white space around it, and the number is in range (`integers_of_texts`).
-/

namespace Conversion

variable {type : IntType} {text literal : List Char} {value : Int}

theorem IntType.Spells.solid (spells : type.Spells literal value) :
    ∀ char ∈ literal, Text.isBlank char = false := by
  intro char charMem
  rcases spells.isDigit_or_sign char charMem with digit | rfl | rfl
  · exact Text.not_isBlank_of_isDigit digit
  · rfl
  · rfl

/-- A text that is an integer after trimming is an integer with white space around it. -/
theorem IntType.spells_trim_iff :
    type.Spells (Text.trim text) value ↔
      ∃ literal, Text.Pads text literal ∧ type.Spells literal value := by
  constructor
  · intro spells
    exact ⟨Text.trim text, Text.pads_trim text, spells⟩
  · rintro ⟨literal, pads, spells⟩
    rwa [Text.trim_of_pads_of_solid pads spells.solid]

namespace Builtin

open Conversion.Registry

variable {registry : Registry}

/-- What reading an integer from a text answers. -/
def integerOf (type : IntType) (text : String) : Except ConvertError type.Carrier :=
  (type.read (Text.trim text.toList)).mapError fun error => .invalid (.int type) error.message

theorem parseNumber_int (type : IntType) (text : String) :
    parseNumber text (.int type) = (integerOf type text).map (Value.mk (.int type)) := by
  simp only [parseNumber, integerOf]
  cases type.read (Text.trim text.toList) <;> rfl

theorem convert_text_int (standard : IsStandard registry) (type : IntType) (text : String) :
    (convert .string (.int type) text registry).result = integerOf type text ∧
      (convert .str (.int type) text registry).result = integerOf type text := by
  constructor
  · refine convert_of_serving_answer standard rfl ?_
    exact parseNumber_int type text
  · refine convert_of_serving_answer standard rfl ?_
    exact parseNumber_int type text

theorem integerOf_eq_ok_iff {type : IntType} {text : String} {number : type.Carrier} :
    integerOf type text = .ok number ↔
      ∃ literal, Text.Pads text.toList literal ∧ type.Spells literal number.val := by
  rw [← IntType.spells_trim_iff, ← IntType.read_eq_ok_iff, integerOf]
  cases type.read (Text.trim text.toList) <;> simp [Except.mapError]

theorem integerOf_ok_or_invalid (type : IntType) (text : String) :
    (∃ number, integerOf type text = .ok number) ∨
      ∃ reason, integerOf type text = .error (.invalid (.int type) reason) := by
  rw [integerOf]
  cases type.read (Text.trim text.toList) with
  | ok number => exact Or.inl ⟨number, rfl⟩
  | error error => exact Or.inr ⟨error.message, rfl⟩

/-- Owned and borrowed texts are read as the same integers of each type. Those are the texts of the
grammar with white space around them, if the number is in range; all others are invalid. -/
theorem integers_of_texts (builder : Builder) (serial : Nat)
    (areBuiltin : AreBuiltin builder.registrars)
    (undeclared : ∀ key, key.IsBuiltin = true →
      (builder.assemble serial).types.isDeclared key = false) :
    let built := builder.build serial
    built.result = .ok () ∧
      ∀ registry, Remembers built.registry registry → ∀ (type : IntType) (text : String),
        let answer := (convert .string (.int type) text registry).result
        let writes := fun value =>
          ∃ literal, Text.Pads text.toList literal ∧ type.Spells literal value
        (convert .str (.int type) text registry).result = answer ∧
          (∀ number : type.Carrier, answer = .ok number ↔ writes number.val) ∧
          ((∃ reason, answer = .error (.invalid (.int type) reason)) ↔
            ¬∃ value, writes value ∧ type.Holds value) := by
  intro built
  rcases isStandard_of_build serial areBuiltin undeclared with ⟨succeeded, standard⟩
  refine ⟨succeeded, ?_⟩
  intro registry remembers type text answer writes
  rcases convert_text_int (standard registry remembers) type text with ⟨owned, borrowed⟩
  have isAnswer : answer = integerOf type text := owned
  rw [isAnswer]
  refine ⟨borrowed, ?_, ?_⟩
  · intro number
    exact integerOf_eq_ok_iff
  · constructor
    · rintro ⟨reason, failed⟩ ⟨value, written, holds⟩
      have read : integerOf type text = .ok ⟨value, holds⟩ := integerOf_eq_ok_iff.mpr written
      rw [read] at failed
      cases failed
    · intro unwritten
      rcases integerOf_ok_or_invalid type text with ⟨number, read⟩ | failed
      · exact absurd ⟨number.val, integerOf_eq_ok_iff.mp read, number.property⟩ unwritten
      · exact failed

theorem undeclared_rulesFirst (key : TypeKey) (isBuiltin : key.IsBuiltin = true) :
    (rulesFirst.assemble 0).types.isDeclared key = false := by
  cases key with
  | custom name => cases isBuiltin
  | abstract name => cases isBuiltin
  | _ => rfl

def octet : IntType :=
  ⟨true, .w8⟩

theorem integers_of_texts_at_end_of_range :
    let registry := (rulesFirst.build 0).registry
    let low : octet.Carrier := ⟨-128, by decide⟩
    (convert .string (.int octet) "\u3000-128\n" registry).result = .ok low ∧
      (convert .str (.int octet) "\u3000-128\n" registry).result = .ok low ∧
      ∃ reason, (convert .string (.int octet) "128" registry).result =
        .error (.invalid (.int octet) reason) := by
  intro registry low
  rcases integers_of_texts rulesFirst 0 (Or.inr rfl) undeclared_rulesFirst with ⟨_, reads⟩
  have remembers := Remembers.refl registry
  rcases reads registry remembers octet "\u3000-128\n" with ⟨borrowed, ok_iff, _⟩
  rcases reads registry remembers octet "128" with ⟨_, _, invalid_iff⟩
  have written : ∃ literal, Text.Pads "\u3000-128\n".toList literal ∧
      octet.Spells literal low.val := by
    have numeral : IsNumeral ['1', '2', '8'] := ⟨by simp, List.all_eq_true.mp rfl⟩
    refine ⟨['-', '1', '2', '8'], ⟨['\u3000'], ['\n'], ?_, ?_, rfl⟩, .minus rfl numeral⟩
    · exact List.forall_mem_singleton.mpr rfl
    · exact List.forall_mem_singleton.mpr rfl
  have tooGreat : ¬∃ value, (∃ literal, Text.Pads "128".toList literal ∧
      octet.Spells literal value) ∧ octet.Holds value := by
    rintro ⟨value, writes, holds⟩
    have spells : octet.Spells ['1', '2', '8'] value := IntType.spells_trim_iff.mpr writes
    cases spells with
    | plain numeral => exact absurd holds (by decide)
  have owned := (ok_iff low).mpr written
  exact ⟨owned, borrowed.trans owned, invalid_iff.mpr tooGreat⟩

end Builtin

end Conversion
