import Conversion.Converter
import Conversion.Numeric.FloatText

/-!
# Values as text

Every value has a text: an integer in decimal, a floating-point number in its shortest positional
form, a truth value as a word, and a character or a text as it is.
-/

namespace Conversion

/-- The text of a value of a type. -/
def TypeKey.display : (key : TypeKey) → key.Carrier → String
  | .int _, content => toString content.val
  | .float format, content => format.display content
  | .bool, true => "true"
  | .bool, false => "false"
  | .char, content => content.toString
  | .string, content => content
  | .str, content => content
  | .custom _, content => content

/-- The text of a value. -/
def Value.display (value : Value) : String :=
  value.key.display value.content

namespace Builtin

/-- The text of a numeric value. -/
def numberText? (value : Value) : Option String :=
  match value with
  | ⟨.int type, number⟩ => some ((TypeKey.int type).display number)
  | ⟨.float format, pattern⟩ => some ((TypeKey.float format).display pattern)
  | _ => none

/-- Writes a number of any numeric type as text. -/
def numberToString : Behavior :=
  .dynamic fun value _ =>
    match numberText? value with
    | some text => .ok ⟨.string, text⟩
    | none => .error (.sourceMismatch .number)

/-- Whether a numeric value differs from zero. -/
def numberIsNonzero (value : Value) : Except ConvertError Bool :=
  match value with
  | ⟨.int _, number⟩ => .ok (decide (number.val ≠ 0))
  | ⟨.float format, pattern⟩ => .ok (format.isNonzero pattern)
  | _ => .error (.sourceMismatch .number)

end Builtin

end Conversion
