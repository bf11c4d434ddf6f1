import Conversion.TypeKey

/-!
# Errors

Two kinds of failure, each a closed list of causes with its wording in one place: filing a
converter can be refused (`RegistryError`), and converting a value can fail (`ConvertError`).
-/

namespace Conversion

/-- Why filing a converter, or a registrar that files some, failed. -/
inductive RegistryError where
  | nonPublicSource (key : TypeKey)
  | nonPublicTarget (key : TypeKey)
  | sameType (key : TypeKey)
  /-- A rule was filed as the converter of one pair. -/
  | ruleAsConverter (source target : TypeKey)
  | duplicate (source target : TypeKey)
  /-- A registrar stopped at an error. -/
  | registrar (name : String) (cause : RegistryError)
  deriving DecidableEq

/-- What an error says. A registrar's error names the registrar and leaves its cause to be asked
for. -/
def RegistryError.message : RegistryError → String
  | nonPublicSource key => "source " ++ key.name ++ " is not a public type"
  | nonPublicTarget key => "destination " ++ key.name ++ " is not a public type"
  | sameType key =>
      "source and destination are both " ++ key.name ++ "; no converter is required"
  | ruleAsConverter source target =>
      "converter rules must be registered via register_rule: from=" ++ source.name ++ " to=" ++
        target.name
  | duplicate source target =>
      "a mapping from " ++ source.name ++ " to " ++ target.name ++ " is already defined"
  | registrar name _ => "registrar " ++ name ++ " failed"

/-- Why a value was not converted. -/
inductive ConvertError where
  /-- No level of lookup found a converter. -/
  | noConverter (source target : TypeKey)
  /-- The converter was handed a value of a type that it cannot read. -/
  | sourceMismatch (expected : TypeKey)
  /-- The converter can read the type but not this value. -/
  | invalid (target : TypeKey) (reason : String)
  /-- The converter made a value of another type than the requested one. -/
  | outputMismatch (expected : TypeKey)
  deriving DecidableEq

/-- What an error says. -/
def ConvertError.message : ConvertError → String
  | noConverter source target => "no converter from " ++ source.name ++ " to " ++ target.name
  | sourceMismatch expected => "converter expected a " ++ expected.name ++ " value"
  | invalid target reason => "cannot convert value to " ++ target.name ++ ": " ++ reason
  | outputMismatch expected =>
      "converter produced a value that is not a " ++ expected.name

end Conversion
