import Conversion.TypeKey

/-!
# Values

Every type has a carrier, the Lean type of its values. A `Value` is a value together with its type,
so a conversion can be handed one without knowing the type and has to ask for the type it expects;
`Value.as?` is that question.
-/

namespace Conversion

/-- The values of a type. -/
def TypeKey.Carrier : TypeKey → Type
  | .int type => type.Carrier
  | .float format => format.Carrier
  | .bool => Bool
  | .char => Char
  | .string => String
  | .str => String
  | .custom _ => String
  | .number => Empty
  | .text => Empty
  | .abstract _ => Empty

/-- Whether a type has values. -/
def TypeKey.HasValues : TypeKey → Bool
  | .number => false
  | .text => false
  | .abstract _ => false
  | _ => true

/-- A value of some type. -/
structure Value where
  key : TypeKey
  content : key.Carrier

namespace Value

/-- The value as one of the asked type, when that is its type. -/
def as? (value : Value) (key : TypeKey) : Option key.Carrier :=
  if same : value.key = key then some (same ▸ value.content) else none

@[simp]
theorem as?_self (key : TypeKey) (content : key.Carrier) :
    (Value.mk key content).as? key = some content := by
  simp [as?]

theorem as?_eq_some_iff {value : Value} {key : TypeKey} {content : key.Carrier} :
    value.as? key = some content ↔ value = ⟨key, content⟩ := by
  rcases value with ⟨own, held⟩
  constructor
  · intro found
    by_cases same : own = key
    · subst same
      simpa [as?] using found
    · simp [as?, same] at found
  · rintro ⟨⟩
    exact as?_self _ _

theorem as?_eq_none_iff {value : Value} {key : TypeKey} :
    value.as? key = none ↔ value.key ≠ key := by
  simp [as?]

end Value

end Conversion
