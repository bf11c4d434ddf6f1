import Conversion.Registry.Basic

/-!
# Registration

`Registry.register` files a converter for a pair of types and for the ancestors of the target that
the source has no converter for. It is refused, and the table stays as it was, for a private type,
for a pair of equal types, for a rule, and for a pair that has a converter of its own already; the
first of these that holds is the error.
-/

namespace Conversion.Registry

/-- Why a converter may not be filed for a pair, as far as the table does not matter. -/
def refusal? (types : Hierarchy) (source target : TypeKey) (converter : Converter) :
    Option RegistryError :=
  if !types.isPublic source then some (.nonPublicSource source)
  else if !types.isPublic target then some (.nonPublicTarget target)
  else if source = target then some (.sameType source)
  else if converter.asRule?.isSome then some (.ruleAsConverter source target)
  else none

/-- Reports a pair of types that needs no converter, when the options ask for it. -/
def reportRedundancy (source target : TypeKey) : Action Unit := fun registry =>
  if registry.options.warnRedundant then
    let (convertible, types) := registry.types.areConvertible source target
    ⟨(), { registry with types }, if convertible then [.redundant source target] else []⟩
  else ⟨(), registry, []⟩

/-- Files a converter in the table for a pair and the chain of its target. -/
def fileInTable (source target : TypeKey) (converter : Converter) (chain : List TypeKey) :
    Attempt := fun registry =>
  match registry.table.file source target converter chain with
  | none => ⟨.error (.duplicate source target), registry, []⟩
  | some (table, events) => ⟨.ok (), { registry with table }, events⟩

/-- Registers a converter for a pair and for the ancestors of the target. -/
def register (source target : TypeKey) (converter : Converter) : Attempt := fun registry =>
  match refusal? registry.types source target converter with
  | some error => ⟨.error error, registry, []⟩
  | none =>
      let filing : Attempt := do
        reportRedundancy source target
        let chain ← Action.query (·.ancestors target)
        fileInTable source target converter chain
      filing registry

/-- Registers a converter for one source after another, up to the first that is refused. -/
def registerForAll (sources : List TypeKey) (target : TypeKey) (converter : Converter) :
    Attempt :=
  Attempt.inOrder (sources.map fun source => register source target converter)

/-- Adds a rule. -/
def registerRule (rule : Rule) : Action Unit := fun registry =>
  ⟨(), { registry with rules := registry.rules.add rule }, [.ruleRegistered rule.kind]⟩

end Conversion.Registry
