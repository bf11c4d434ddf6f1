import Conversion.Numeric.IntType
import Conversion.Numeric.FloatFormat

/-!
# Types that take part in conversions

A `TypeKey` identifies a type. The built-in types have a constructor each; the types of an
embedding program come in two sorts, those whose values carry a text and those that have no values
a conversion could read, such as interfaces. Identity is the constructor with its arguments, never
the displayed name: a type with values and an abstract one differ even under one name.
-/

namespace Conversion

/-- Identity of a type. -/
inductive TypeKey where
  | int (type : IntType)
  | float (format : FloatFormat)
  | bool
  | char
  /-- Owned text. -/
  | string
  /-- Borrowed text. -/
  | str
  /-- The interface of the numeric types. -/
  | number
  /-- The interface of the two text types. -/
  | text
  /-- A type of the embedding program whose values carry a text. -/
  | custom (name : String)
  /-- A type of the embedding program without values of its own. -/
  | abstract (name : String)
  deriving DecidableEq, Ord

namespace TypeKey

/-- The full path under which a type is reported. -/
def name : TypeKey → String
  | int type => type.name
  | float format => format.name
  | bool => "bool"
  | char => "char"
  | string => "alloc::string::String"
  | str => "&str"
  | number => "dyn commons_typeconv::builtins::Number"
  | text => "dyn commons_typeconv::builtins::Text"
  | custom name => name
  | abstract name => name

instance : ToString TypeKey where
  toString := name

/-- The name marked as the name of a type. -/
def debug (key : TypeKey) : String :=
  "TypeKey(" ++ key.name ++ ")"

/-- The distinct members of a list in ascending order. -/
def sortDistinct (keys : List TypeKey) : List TypeKey :=
  (keys.mergeSort fun left right => (compare left right).isLE).foldr
    (fun key rest => if rest.head? = some key then rest else key :: rest) []

end TypeKey

/-- An ordered pair of types: the identity of one conversion. -/
structure TypePair where
  source : TypeKey
  target : TypeKey
  deriving DecidableEq

namespace TypePair

/-- The pair as an arrow in brackets. -/
def display (pair : TypePair) : String :=
  "[" ++ pair.source.name ++ "->" ++ pair.target.name ++ "]"

/-- The pair with its two ends named. -/
def debug (pair : TypePair) : String :=
  "ConverterKey \x7b from: " ++ pair.source.debug ++ ", to: " ++ pair.target.debug ++ " \x7d"

end TypePair

end Conversion
