import Conversion.Registry.Lookup

/-!
# Converting values

A conversion looks a converter up and hands it the value. `Registry.convertAs` takes the two types
as they are given; `Registry.convert` takes a value of a known type and makes sure that what comes
out is of the type that was asked for.
-/

namespace Conversion.Registry

/-- Converts a value that is to be looked up under a given source. -/
def convertAs (value : Value) (source target : TypeKey) : Action (Except ConvertError Value) :=
  (find source target).map fun
    | none => .error (.noConverter source target)
    | some converter => converter.convert value target

/-- Converts a value of one type into one of another. -/
def convert (source target : TypeKey) (content : source.Carrier) :
    Action (Except ConvertError target.Carrier) :=
  (convertAs ⟨source, content⟩ source target).map fun
    | .error error => .error error
    | .ok made =>
        match made.as? target with
        | some content => .ok content
        | none => .error (.outputMismatch target)

end Conversion.Registry
