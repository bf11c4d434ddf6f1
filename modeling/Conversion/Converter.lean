import Conversion.Error
import Conversion.Hierarchy.Basic
import Conversion.Value

/-!
# Rules and converters

A converter turns a value into one of another type. Most serve one pair of types and are filed
under it; a rule serves a whole set of pairs and carries the test for it. Both are objects with an
identity, since two converters that behave alike are still told apart.

The three sorts of rule differ in which end of the pair they fix. `RuleBody.canConvert` is the test
and `RuleBody.convert` the conversion; a rule with a fixed target does not look at the requested
one. A custom rule says which sort it is of and is otherwise free.
-/

namespace Conversion

/-- Identity of a converter or a rule: given by whoever built it, or, for one that a registrar made
in a run, a serial number. -/
inductive Identity where
  | given (number : Nat)
  | made (serial : Nat)
  deriving DecidableEq

/-- The sorts of rule, in the order in which a lookup tries them. -/
inductive RuleKind where
  /-- One known source; the rule decides on the target. -/
  | fixedSource
  /-- The rule decides on the source; one known target. -/
  | fixedTarget
  /-- Any source assignable to a base type; one known target. -/
  | assignableSource
  deriving DecidableEq

namespace RuleKind

/-- The place of a sort in the order of lookup. -/
def rank : RuleKind → Nat
  | fixedSource => 0
  | fixedTarget => 1
  | assignableSource => 2

/-- The name of a sort in reports. -/
def name : RuleKind → String
  | fixedSource => "FixedSourceAnyDestination"
  | fixedTarget => "AnySourceFixedDestination"
  | assignableSource => "AssignableSourceFixedDestination"

end RuleKind

/-- What a rule does. -/
inductive RuleBody where
  | fixedSource (source : TypeKey) (accepts : TypeKey → Bool)
      (run : source.Carrier → TypeKey → Except ConvertError Value)
  | fixedTarget (target : TypeKey) (accepts : TypeKey → Bool)
      (run : Value → Except ConvertError target.Carrier)
  | assignableSource (base target : TypeKey) (run : Value → Except ConvertError target.Carrier)
  /-- A rule of any sort with a test of its own, which may look up declarations. -/
  | custom (kind : RuleKind)
      (accepts : TypeKey → TypeKey → (TypeKey → Option Declaration) → Bool)
      (run : Value → TypeKey → Except ConvertError Value)

namespace RuleBody

/-- The sort of a rule. -/
def kind : RuleBody → RuleKind
  | fixedSource .. => .fixedSource
  | fixedTarget .. => .fixedTarget
  | assignableSource .. => .assignableSource
  | custom kind .. => kind

/-- Whether a rule is a custom one. -/
def isCustom : RuleBody → Bool
  | custom .. => true
  | _ => false

/-- Whether a rule serves a pair of types. Only a rule with a base asks for ancestors. -/
def canConvert (body : RuleBody) (source target : TypeKey) (types : Hierarchy) :
    Bool × Hierarchy :=
  match body with
  | fixedSource own accepts _ => (source == own && accepts target, types)
  | fixedTarget own accepts _ => (target == own && accepts source, types)
  | assignableSource base own _ =>
      if target = own then types.isAssignable source base else (false, types)
  | custom _ accepts _ => (accepts source target types.declarations.find?, types)

/-- Converts a value for a requested target. -/
def convert (body : RuleBody) (value : Value) (target : TypeKey) : Except ConvertError Value :=
  match body with
  | fixedSource own _ run =>
      match value.as? own with
      | some content => run content target
      | none => .error (.sourceMismatch own)
  | fixedTarget own _ run => (run value).map (Value.mk own)
  | assignableSource _ own run => (run value).map (Value.mk own)
  | custom _ _ run => run value target

@[simp]
theorem declarations_canConvert (body : RuleBody) (source target : TypeKey) (types : Hierarchy) :
    (body.canConvert source target types).2.declarations = types.declarations := by
  cases body with
  | fixedSource own accepts run => rfl
  | fixedTarget own accepts run => rfl
  | assignableSource base own run =>
      simp only [canConvert]
      split <;> simp
  | custom kind accepts run => rfl

end RuleBody

/-- A rule. -/
structure Rule where
  identity : Identity
  body : RuleBody

namespace Rule

/-- The sort of a rule. -/
def kind (rule : Rule) : RuleKind :=
  rule.body.kind

/-- Whether a rule serves a pair of types. -/
def canConvert (rule : Rule) (source target : TypeKey) (types : Hierarchy) : Bool × Hierarchy :=
  rule.body.canConvert source target types

end Rule

/-- What a converter does. -/
inductive Behavior where
  /-- Reads values of one type and makes values of another, or says why it cannot. -/
  | closure (source target : TypeKey) (run : source.Carrier → Except String target.Carrier)
  /-- Decides on the type it reads and the type it makes by itself. -/
  | dynamic (run : Value → TypeKey → Except ConvertError Value)
  /-- Does what a rule does. -/
  | rule (body : RuleBody)

namespace Behavior

/-- A closure that never fails. -/
def total (source target : TypeKey) (run : source.Carrier → target.Carrier) : Behavior :=
  closure source target fun content => .ok (run content)

/-- Converts a value for a requested target. A closure reports its own target in an error, not the
requested one. -/
def convert (behavior : Behavior) (value : Value) (requested : TypeKey) :
    Except ConvertError Value :=
  match behavior with
  | closure source target run =>
      match value.as? source with
      | none => .error (.sourceMismatch source)
      | some content =>
          match run content with
          | .ok made => .ok ⟨target, made⟩
          | .error reason => .error (.invalid target reason)
  | dynamic run => run value requested
  | rule body => body.convert value requested

end Behavior

/-- A converter. -/
structure Converter where
  identity : Identity
  behavior : Behavior

namespace Converter

/-- Converts a value for a requested target. -/
def convert (converter : Converter) (value : Value) (requested : TypeKey) :
    Except ConvertError Value :=
  converter.behavior.convert value requested

/-- The rule that a converter is, when it is one. -/
def asRule? (converter : Converter) : Option Rule :=
  match converter.behavior with
  | .rule body => some ⟨converter.identity, body⟩
  | _ => none

end Converter

/-- The rule as a converter, with the identity it has as a rule. -/
def Rule.toConverter (rule : Rule) : Converter :=
  ⟨rule.identity, .rule rule.body⟩

@[simp]
theorem Rule.asRule?_toConverter (rule : Rule) : rule.toConverter.asRule? = some rule :=
  rfl

end Conversion
