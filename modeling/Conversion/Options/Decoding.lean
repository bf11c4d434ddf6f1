import Conversion.Numeric.FloatText
import Conversion.Options.Basic
import Conversion.Text.Quoted

/-!
# Options from configuration data

Options are read from a piece of configuration: a record with a field for each switch, or a list of
the switches in their order. What is missing keeps the default of the build and unknown fields are
skipped. An error says what was found and what was expected.
-/

namespace Conversion

/-- A piece of configuration. The fields of a record are in ascending order of their names. -/
inductive Datum where
  | null
  | bool (value : Bool)
  | int (number : Int)
  | float (pattern : BitVec 64)
  | text (value : String)
  | list (items : List Datum)
  | record (fields : List (String × Datum))

/-- How an error names what it found. -/
def Datum.describe : Datum → String
  | null => "null"
  | bool value => "boolean `" ++ Options.word value ++ "`"
  | int number => "integer `" ++ toString number ++ "`"
  | float pattern => "floating point `" ++ FloatFormat.double.scientific pattern ++ "`"
  | text value => "string " ++ Text.quote value
  | list _ => "sequence"
  | record _ => "map"

/-- Why a piece of configuration holds no options. -/
inductive DecodeError where
  | expectedBool (found : Datum)
  | expectedOptions (found : Datum)
  | tooLong (length : Nat)

/-- What an error says. -/
def DecodeError.message : DecodeError → String
  | expectedBool found => "invalid type: " ++ found.describe ++ ", expected a boolean"
  | expectedOptions found =>
      "invalid type: " ++ found.describe ++ ", expected struct RegistryOptions"
  | tooLong length =>
      "invalid length " ++ toString length ++ ", expected fewer elements in array"

namespace Options

/-- A switch. -/
def decodeSwitch : Datum → Except DecodeError Bool
  | .bool value => .ok value
  | other => .error (.expectedBool other)

/-- Sets the switches that the fields of a record name, from first to last. -/
def decodeFields (options : Options) : List (String × Datum) → Except DecodeError Options
  | [] => .ok options
  | (name, value) :: rest =>
      if name = "debug_mode" then do
        let debugMode ← decodeSwitch value
        decodeFields { options with debugMode } rest
      else if name = "warn_redundant_registration" then do
        let warnRedundant ← decodeSwitch value
        decodeFields { options with warnRedundant } rest
      else decodeFields options rest

/-- Sets the switches by position. A wrong item is reported before a wrong length. -/
def decodeList (options : Options) : List Datum → Except DecodeError Options
  | [] => .ok options
  | [first] => do
      let debugMode ← decodeSwitch first
      return { options with debugMode }
  | first :: second :: rest => do
      let debugMode ← decodeSwitch first
      let warnRedundant ← decodeSwitch second
      if rest.isEmpty then return { debugMode, warnRedundant }
      else throw (.tooLong (rest.length + 2))

/-- Reads options. -/
def decode (datum : Datum) (profile : BuildProfile := .debug) : Except DecodeError Options :=
  match datum with
  | .record fields => decodeFields (forBuild profile) fields
  | .list items => decodeList (forBuild profile) items
  | other => .error (.expectedOptions other)

end Options

end Conversion
