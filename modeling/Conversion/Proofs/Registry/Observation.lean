import Conversion.Proofs.Registry.Agreement

/-!
# Observations

An `Observation` is what there is to see of one action: its result, the table, the rules and the
declarations that it leaves, and what it reports. The chains that a hierarchy remembers and the
options are not part of it, so outcomes that are alike look the same (`Outcome.Alike.observe_eq`).

`Operation.answer` is an operation together with what it answers.
-/

namespace Conversion

/-- What there is to see of an action. -/
structure Observation where
  Result : Type
  result : Result
  table : Table
  rules : RuleBook
  declared : TypeKey → Option Declaration
  events : List Event

/-- What there is to see of an outcome, with diagnostic events or without them. -/
def Outcome.observe {α : Type} (diagnostics : Bool) (outcome : Outcome α) : Observation where
  Result := α
  result := outcome.result
  table := outcome.registry.table
  rules := outcome.registry.rules
  declared := outcome.registry.types.declarations.find?
  events := shown diagnostics outcome.events

/-- Outcomes that are alike look the same. -/
theorem Outcome.Alike.observe_eq {α : Type} {diagnostics : Bool} {left right : Outcome α}
    (alike : left.Alike diagnostics right) :
    left.observe diagnostics = right.observe diagnostics := by
  have sameDeclared : left.registry.types.declarations.find? =
      right.registry.types.declarations.find? := funext alike.registry.types
  simp only [observe, alike.result, alike.registry.table, alike.registry.rules, sameDeclared,
    alike.events]

namespace Operation

/-- What an operation answers with. -/
def Result : Operation → Type
  | declare _ => Unit
  | declareAll _ => Unit
  | register .. => Except RegistryError Unit
  | registerForAll .. => Except RegistryError Unit
  | registerRule _ => Unit
  | takeIdentity => Identity
  | ancestors _ => List TypeKey
  | isAssignable .. => Bool
  | areConvertible .. => Bool
  | exact .. => Option Converter
  | byAncestor .. => Option Converter
  | byRule .. => Option Converter
  | find .. => Option Converter
  | convert .. => Except ConvertError Value

/-- Carries an operation out and keeps what it answers. -/
def answer : (operation : Operation) → Action operation.Result
  | declare declaration => Registry.declare declaration
  | declareAll declarations => Registry.declareAll declarations
  | register source target converter => Registry.register source target converter
  | registerForAll sources target converter => Registry.registerForAll sources target converter
  | registerRule rule => Registry.registerRule rule
  | takeIdentity => Registry.nextIdentity
  | ancestors key => Action.query (·.ancestors key)
  | isAssignable source target => Action.query (·.isAssignable source target)
  | areConvertible left right => Action.query (·.areConvertible left right)
  | exact source target => Registry.exact source target
  | byAncestor source target => Registry.byAncestor source target
  | byRule source target => Registry.byRule source target
  | find source target => Registry.find source target
  | convert value source target => Registry.convertAs value source target

/-- Keeping the answer changes nothing else. -/
theorem perform_eq_map_answer (operation : Operation) :
    operation.perform = operation.answer.map fun _ => () := by
  cases operation <;> rfl

theorem registry_answer (operation : Operation) (registry : Registry) :
    (operation.answer registry).registry = (operation.perform registry).registry := by
  rw [perform_eq_map_answer]
  rfl

theorem answer_respects {diagnostics : Bool} (operation : Operation) :
    Action.Respects diagnostics operation.answer := by
  cases operation with
  | declare declaration => exact Registry.declare_respects declaration
  | declareAll declarations => exact Registry.declareAll_respects declarations
  | register source target converter => exact Registry.register_respects source target converter
  | registerForAll sources target converter =>
      exact Registry.registerForAll_respects sources target converter
  | registerRule rule => exact Registry.registerRule_respects rule
  | takeIdentity => exact Registry.nextIdentity_respects
  | ancestors key => exact Registry.ancestors_respects key
  | isAssignable source target => exact Registry.isAssignable_respects source target
  | areConvertible left right => exact Registry.areConvertible_respects left right
  | exact source target => exact Registry.exact_respects source target
  | byAncestor source target => exact Registry.byAncestor_respects source target
  | byRule source target => exact Registry.byRule_respects source target
  | find source target => exact Registry.find_respects source target
  | convert value source target => exact Registry.convertAs_respects value source target

end Operation

end Conversion
