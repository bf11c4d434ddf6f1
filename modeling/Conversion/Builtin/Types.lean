import Conversion.Hierarchy.Declaration

/-!
# Built-in types

The fourteen numeric types implement the number interface, and the two text types implement the text
interface.
-/

namespace Conversion.Builtin

/-- The numeric types: the integer types and then the floating-point formats. -/
def numberTypes : List TypeKey :=
  IntType.all.map .int ++ [.float .single, .float .double]

/-- Whether a type is numeric. -/
def isNumber (key : TypeKey) : Bool :=
  numberTypes.contains key

/-- The declarations of the built-in types. -/
def declarations : List Declaration :=
  (numberTypes.map fun key => (Declaration.of key).implementing .number) ++
    [(Declaration.of .string).implementing .text, (Declaration.of .str).implementing .text]

/-- The numeric types are the integer types and the floating-point formats. -/
theorem isNumber_eq (key : TypeKey) :
    isNumber key = match key with
      | .int _ => true
      | .float _ => true
      | _ => false := by
  cases key with
  | int type =>
      rcases type with ⟨signed, width⟩
      cases signed <;> cases width <;> decide
  | float format => cases format <;> decide
  | bool => rfl
  | char => rfl
  | string => rfl
  | str => rfl
  | number => rfl
  | text => rfl
  | custom name => simp [isNumber, numberTypes, IntType.all]
  | abstract name => simp [isNumber, numberTypes, IntType.all]

end Conversion.Builtin
