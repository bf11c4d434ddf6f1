import Conversion.Builder
import Conversion.Proofs.Registry.Observation

/-!
# Options are for diagnostics only

A `Program` is what a caller may do with a registry, each call depending on the answers to those
before it. A callback that visits the entries is a program, and so is a registrar that looks things
up while it runs; a converter that converts by the same registry is a program that goes on after a
lookup. None of them is told the options.

`options_only_diagnose` compares two runs under different options. They go alike step by step: the
options decide on remembered chains and on diagnostic events, and neither comes back to the program.
-/

namespace Conversion

open Conversion.Action

namespace Action

variable {α : Type}

/-- Looks at a registry and changes nothing. -/
def look (view : Registry → α) : Action α := fun registry =>
  ⟨view registry, registry, []⟩

theorem Respects.look {diagnostics : Bool} {view : Registry → α}
    (same : ∀ {left right : Registry}, left.Alike diagnostics right → view left = view right) :
    Respects diagnostics (look view) :=
  fun _ _ alike => ⟨same alike, alike, rfl⟩

end Action

/-- What a caller may do with a registry. -/
inductive Program : Type → Type 1 where
  | done {α : Type} (result : α) : Program α
  | andThen {α β : Type} (first : Program α) (next : α → Program β) : Program β
  | call (operation : Operation) : Program operation.Result
  | convert (source target : TypeKey) (content : source.Carrier) :
      Program (Except ConvertError target.Carrier)
  | isPublic (key : TypeKey) : Program Bool
  | isDeclared (key : TypeKey) : Program Bool
  | converterCount : Program Nat
  | ruleCount : Program Nat
  | forEachConverter {σ : Type} (visitor : σ → TypePair → Converter → Program (σ × Flow))
      (state : σ) : Program σ
  | run (registrar : Registrar) : Program (Except RegistryError Unit)
  | reinitialize : Program (Except RegistryError Unit)
  /-- Runs a registrar that is a program itself. -/
  | runProgram (name : String) (body : Program (Except RegistryError Unit)) :
      Program (Except RegistryError Unit)
  /-- The start of a new run of registrars that are programs themselves. -/
  | clear : Program Unit
  /-- The end of such a run. -/
  | reportInitialized : Program (Except RegistryError Unit)

namespace Program

/-- Carries a program out. -/
def perform {α : Type} : Program α → Action α
  | done result => Action.done result
  | andThen first next => first.perform.andThen fun result => (next result).perform
  | call operation => operation.answer
  | convert source target content => Registry.convert source target content
  | isPublic key => look (·.types.isPublic key)
  | isDeclared key => look (·.types.isDeclared key)
  | converterCount => look Registry.converterCount
  | ruleCount => look Registry.ruleCount
  | forEachConverter visitor state =>
      Registry.forEachConverter (fun state pair converter =>
        (visitor state pair converter).perform) state
  | run registrar => registrar.run
  | reinitialize => Registry.reinitialize
  | runProgram name body => Attempt.tagged name body.perform
  | clear => modify Registry.clear
  | reportInitialized => Registry.reportInitialized

theorem perform_respects {α : Type} {diagnostics : Bool} (program : Program α) :
    Respects diagnostics program.perform := by
  induction program with
  | done result => exact Respects.done result
  | andThen first next firstIh nextIh => exact firstIh.andThen nextIh
  | call operation => exact operation.answer_respects
  | convert source target content => exact Registry.convert_respects source target content
  | isPublic key => exact Respects.look fun alike => alike.types.isPublic key
  | isDeclared key =>
      refine Respects.look ?_
      intro left right alike
      exact congrArg Option.isSome (alike.types key)
  | converterCount => exact Respects.look fun alike => congrArg Table.size alike.table
  | ruleCount => exact Respects.look fun alike => congrArg RuleBook.size alike.rules
  | forEachConverter visitor state ih => exact Registry.forEachConverter_respects ih state
  | run registrar => exact Registry.run_respects registrar
  | reinitialize => exact Registry.reinitialize_respects
  | runProgram name body ih => exact Respects.composes.tagged ih name
  | clear => exact Registry.clear_respects
  | reportInitialized => exact Registry.reportInitialized_respects

end Program

namespace Registry

/-- What there is to see after each of several programs, with diagnostic events or without them. -/
def observations (diagnostics : Bool) (registry : Registry) :
    List ((α : Type) × Program α) → List Observation
  | [] => []
  | ⟨_, program⟩ :: rest =>
      let outcome := program.perform registry
      outcome.observe diagnostics :: outcome.registry.observations diagnostics rest

variable {diagnostics : Bool} {left right : Registry}

theorem Alike.observations_eq (alike : left.Alike diagnostics right)
    (steps : List ((α : Type) × Program α)) :
    left.observations diagnostics steps = right.observations diagnostics steps := by
  induction steps generalizing left right with
  | nil => rfl
  | cons step rest ih =>
      have outcome := step.2.perform_respects alike
      rw [observations, observations, outcome.observe_eq, ih outcome.registry]

/-- Registries that differ in their options are alike when diagnostic events do not count. -/
theorem alike_withOptions (registry : Registry) (left right : Options) :
    { registry with options := left }.Alike false { registry with options := right } where
  types := fun _ => rfl
  table := rfl
  rules := rfl
  registrars := rfl
  serial := rfl
  options := by
    intro counted
    cases counted

/-- The options decide what is diagnosed and nothing else. Two registries that differ in their
options give the same results after every step, hold the same table, rules and declarations and
report the same events, but for warnings of redundant registrations and of ambiguous lookups. The
same holds from the start for two registries that are built with different options. -/
theorem options_only_diagnose (left right : Options) (steps : List ((α : Type) × Program α)) :
    (∀ registry : Registry,
      { registry with options := left }.observations false steps =
        { registry with options := right }.observations false steps) ∧
      ∀ (builder : Builder) (serial : Nat),
        ((builder.withOptions left).build serial).observe false =
            ((builder.withOptions right).build serial).observe false ∧
          ((builder.withOptions left).build serial).registry.observations false steps =
            ((builder.withOptions right).build serial).registry.observations false steps := by
  refine ⟨fun registry => (alike_withOptions registry left right).observations_eq steps, ?_⟩
  intro builder serial
  have assembled : ((builder.withOptions left).assemble serial).Alike false
      ((builder.withOptions right).assemble serial) :=
    alike_withOptions (builder.assemble serial) left right
  have built : ((builder.withOptions left).build serial).Alike false
      ((builder.withOptions right).build serial) := reinitialize_respects assembled
  exact ⟨built.observe_eq, built.registry.observations_eq steps⟩

/-- With the warnings counted the options do show. -/
example (key : TypeKey) (registry : Registry) :
    (reportRedundancy key key { registry with options.warnRedundant := true }).events ≠
      (reportRedundancy key key { registry with options.warnRedundant := false }).events := by
  simp [reportRedundancy, Hierarchy.areConvertible, Hierarchy.isAssignable]

end Registry

end Conversion
