import Conversion.Builtin.Formatting
import Conversion.Builtin.Parsing
import Conversion.Builtin.Types
import Conversion.Registrar

/-!
# Built-in registrars

`primitives` declares the built-in types and files the conversions between primitive values and
text. Writing numbers is filed once, under the number interface, and reaches every numeric type
through lookup by ancestors. `rules` adds what has no fixed pair: reading a number of any numeric
type from text, and truth values of numbers and texts.
-/

namespace Conversion.Builtin

/-- Truth values as words. -/
def boolToString : Behavior :=
  .total .bool .string fun value => TypeKey.bool.display value

/-- Truth values from owned text. -/
def stringToBool : Behavior :=
  .closure .string .bool fun text => parseBool text

/-- Characters as text. -/
def charToString : Behavior :=
  .total .char .string fun char => TypeKey.char.display char

/-- Characters from owned text. -/
def stringToChar : Behavior :=
  .closure .string .char fun text => parseChar text

/-- Borrowed text as owned text. -/
def strToString : Behavior :=
  .total .str .string fun text => text

/-- Numbers of any numeric type from owned text. -/
def stringToNumber : RuleBody :=
  .fixedSource .string isNumber fun text target => parseNumber text target

/-- Numbers of any numeric type from borrowed text. -/
def strToNumber : RuleBody :=
  .fixedSource .str isNumber fun text target => parseNumber text target

/-- Truth values from numbers. -/
def numberToBool : RuleBody :=
  .fixedTarget .bool isNumber fun value => numberIsNonzero value

/-- Truth values from anything assignable to the text interface. -/
def anyTextToBool : RuleBody :=
  .assignableSource .text .bool fun value => textToBool value

/-- Files the conversions between primitive values and text. -/
def primitives : Registrar where
  name := "builtin::primitives"
  ordinal := 10
  script :=
    [ .declareAll declarations,
      .register .number .string (.anew numberToString),
      .register .bool .string (.anew boolToString),
      .register .string .bool (.anew stringToBool),
      .register .char .string (.anew charToString),
      .register .string .char (.anew stringToChar),
      .register .str .string (.anew strToString) ]

/-- Adds the rules that read numbers and truth values. -/
def rules : Registrar where
  name := "builtin::rules"
  ordinal := 20
  script :=
    [ .registerRule (.anew stringToNumber),
      .registerRule (.anew strToNumber),
      .registerRule (.anew numberToBool),
      .registerRule (.anew anyTextToBool) ]

end Conversion.Builtin
