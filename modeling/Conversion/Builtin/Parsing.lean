import Conversion.Converter
import Conversion.Numeric.FloatReading
import Conversion.Text.Blank
import Conversion.Text.Quoted

/-!
# Values from text

Numbers and truth values are read from a text without the white space around it, a character from
exactly that character.
-/

namespace Conversion.Builtin

/-- Reads a number of a numeric type. -/
def parseNumber (text : String) (target : TypeKey) : Except ConvertError Value :=
  let trimmed := Text.trim text.toList
  match target with
  | .int type =>
      match type.read trimmed with
      | .ok number => .ok ⟨.int type, number⟩
      | .error error => .error (.invalid target error.message)
  | .float format =>
      match format.read trimmed with
      | .ok pattern => .ok ⟨.float format, pattern⟩
      | .error error => .error (.invalid target error.message)
  | _ => .error (.invalid target "not a numeric type")

/-- The texts that stand for true. -/
def trueWords : List String :=
  ["true", "yes", "on", "1"]

/-- The texts that stand for false. -/
def falseWords : List String :=
  ["false", "no", "off", "0"]

/-- Reads a truth value, in any case of its ASCII letters. -/
def parseBool (text : String) : Except String Bool :=
  let word := String.ofList ((Text.trim text.toList).map Char.toLower)
  if word ∈ trueWords then .ok true
  else if word ∈ falseWords then .ok false
  else .error (Text.quote word ++ " is not a boolean")

/-- Reads a character. -/
def parseChar (text : String) : Except String Char :=
  match text.toList with
  | [char] => .ok char
  | _ => .error ("expected exactly one character, got " ++ Text.quote text)

/-- The content of a value of a text type. -/
def text? (value : Value) : Option String :=
  match value with
  | ⟨.string, text⟩ => some text
  | ⟨.str, text⟩ => some text
  | _ => none

/-- Reads a truth value from a value of a text type. -/
def textToBool (value : Value) : Except ConvertError Bool :=
  match text? value with
  | none => .error (.sourceMismatch .text)
  | some text =>
      match parseBool text with
      | .ok value => .ok value
      | .error reason => .error (.invalid .bool reason)

end Conversion.Builtin
