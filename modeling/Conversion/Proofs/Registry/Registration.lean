import Conversion.Registry.Registration
import Conversion.Proofs.Registry.Remembering
import Conversion.Proofs.Table.Log

/-!
# What a registration can come to

A registration goes through checks that look at the hierarchy only, asks for the chain of its
target, and files in the table. `Registered` names the three ways in which it can end, with all
that is known of the outcome in each: it is refused by a check, or refused because the pair has an
entry of its own, or it files. In the first two the registry is as it was, except that it may
remember more chains.
-/

namespace Conversion.Registry

open Conversion.Action

/-- What a registration does between its checks and the table: it reports a pair that needs no
converter and asks for the chain of the target. -/
def prepare (source target : TypeKey) : Action (List TypeKey) := do
  reportRedundancy source target
  query (·.ancestors target)

theorem register_of_refused {source target : TypeKey} {converter : Converter}
    {registry : Registry} {error : RegistryError}
    (refused : refusal? registry.types source target converter = some error) :
    register source target converter registry = ⟨.error error, registry, []⟩ := by
  simp only [register, refused]

theorem register_of_admitted {source target : TypeKey} {converter : Converter}
    {registry : Registry} (admitted : refusal? registry.types source target converter = none) :
    register source target converter registry =
      (prepare source target).andThen (fileInTable source target converter) registry := by
  simp only [register, admitted]
  exact congrFun (Action.andThen_assoc (reportRedundancy source target)
    (fun _ => query (·.ancestors target)) (fileInTable source target converter)).symm registry

theorem reportRedundancy_onlyAsks (source target : TypeKey) :
    OnlyAsks (reportRedundancy source target) := by
  intro registry
  unfold reportRedundancy
  split
  · exact Remembers.ofTypes (registry.types.declarations_areConvertible source target)
  · exact Remembers.refl registry

theorem prepare_onlyAsks (source target : TypeKey) : OnlyAsks (prepare source target) :=
  OnlyAsks.bind (reportRedundancy_onlyAsks source target) fun _ => ancestors_onlyAsks target

theorem prepare_result (source target : TypeKey) (registry : Registry) :
    (prepare source target registry).result = registry.types.declarations.walk target := by
  have kept := (reportRedundancy_onlyAsks source target registry).declarations
  rw [← kept]
  exact Hierarchy.ancestors_fst _ target

theorem reportRedundancy_events (source target : TypeKey) (registry : Registry) :
    (reportRedundancy source target registry).events =
      if registry.options.warnRedundant && (registry.types.areConvertible source target).1 then
        [.redundant source target]
      else [] := by
  unfold reportRedundancy
  cases registry.options.warnRedundant <;> rfl

/-- Before it comes to the table, a registration reports a redundant pair and nothing else. -/
theorem prepare_events (source target : TypeKey) (registry : Registry) :
    (prepare source target registry).events =
      if registry.options.warnRedundant && (registry.types.areConvertible source target).1 then
        [.redundant source target]
      else [] := by
  rw [← reportRedundancy_events]
  exact List.append_nil _

theorem isPublic_congr {types others : Hierarchy}
    (same : types.declarations = others.declarations) (key : TypeKey) :
    types.isPublic key = others.isPublic key := by
  rw [Hierarchy.isPublic, Hierarchy.isPublic, same]

/-- The checks look at the declarations, not at remembered chains. -/
theorem refusal?_congr {types others : Hierarchy}
    (same : types.declarations = others.declarations) (source target : TypeKey)
    (converter : Converter) :
    refusal? types source target converter = refusal? others source target converter := by
  unfold refusal?
  rw [isPublic_congr same source, isPublic_congr same target]

theorem refusal?_eq_none_iff {types : Hierarchy} {source target : TypeKey}
    {converter : Converter} :
    refusal? types source target converter = none ↔
      types.isPublic source = true ∧ types.isPublic target = true ∧ source ≠ target ∧
        converter.asRule? = none := by
  cases sourcePublic : types.isPublic source <;> cases targetPublic : types.isPublic target <;>
    by_cases same : source = target <;> cases isRule : converter.asRule? <;>
    simp [refusal?, sourcePublic, targetPublic, same, isRule]

/-- The ways in which a registration can end. -/
inductive Registered (before : Registry) (source target : TypeKey) (converter : Converter)
    (outcome : Outcome (Except RegistryError Unit)) : Prop where
  | refused (error : RegistryError)
      (refusal : refusal? before.types source target converter = some error)
      (result : outcome.result = .error error) (registry : outcome.registry = before)
      (events : outcome.events = [])
  | duplicate (admitted : refusal? before.types source target converter = none)
      (explicit : before.table.IsExplicit source target)
      (result : outcome.result = .error (.duplicate source target))
      (remembers : Remembers before outcome.registry)
      (events : outcome.events = (prepare source target before).events)
  | filed (admitted : refusal? before.types source target converter = none) (table : Table)
      (filingEvents : List Event)
      (filed : before.table.file source target converter
        (before.types.declarations.walk target) = some (table, filingEvents))
      (result : outcome.result = .ok ())
      (remembers : Remembers { before with table } outcome.registry)
      (events : outcome.events = (prepare source target before).events ++ filingEvents)

theorem registered (before : Registry) (source target : TypeKey) (converter : Converter) :
    Registered before source target converter (register source target converter before) := by
  cases refusal : refusal? before.types source target converter with
  | some error =>
      rw [register_of_refused refusal]
      exact .refused error refusal rfl rfl rfl
  | none =>
      have asks := prepare_onlyAsks source target before
      rw [register_of_admitted refusal]
      simp only [andThen, fileInTable, prepare_result, asks.table]
      cases filed : before.table.file source target converter
          (before.types.declarations.walk target) with
      | none =>
          have explicit := (Table.file_eq_none_iff _ _ _ _).mp filed
          exact .duplicate refusal explicit rfl asks (List.append_nil _)
      | some tableWithEvents =>
          exact .filed refusal tableWithEvents.1 tableWithEvents.2 filed rfl
            (asks.withTable tableWithEvents.1) rfl

/-- What a registration answers, from the declarations and the pairs with an entry of their own. -/
theorem register_result (source target : TypeKey) (converter : Converter) (registry : Registry) :
    (register source target converter registry).result =
      match refusal? registry.types source target converter with
      | some error => .error error
      | none =>
          if registry.table.IsExplicit source target then .error (.duplicate source target)
          else .ok () := by
  cases registered registry source target converter with
  | refused error refusal result same events => rw [result, refusal]
  | duplicate admitted explicit result remembers events =>
      simp only [result, admitted, if_pos explicit]
  | filed admitted table filingEvents filed result remembers events =>
      have notExplicit : ¬registry.table.IsExplicit source target := by
        intro explicit
        rw [(Table.file_eq_none_iff _ _ _ _).mpr explicit] at filed
        cases filed
      simp only [result, admitted, if_neg notExplicit]

/-- A failed registration leaves the registry as it was, but for remembered chains. -/
theorem remembers_of_refused {source target : TypeKey} {converter : Converter}
    {registry : Registry} {error : RegistryError}
    (failed : (register source target converter registry).result = .error error) :
    Remembers registry (register source target converter registry).registry := by
  cases registered registry source target converter with
  | refused reason refusal result same events =>
      rw [same]
      exact Remembers.refl registry
  | duplicate admitted explicit result remembers events => exact remembers
  | filed admitted table filingEvents filed result remembers events =>
      rw [result] at failed
      cases failed

theorem register_eq_ok_iff {source target : TypeKey} {converter : Converter}
    {registry : Registry} :
    (register source target converter registry).result = .ok () ↔
      refusal? registry.types source target converter = none ∧
        ¬registry.table.IsExplicit source target := by
  rw [register_result]
  cases refusal? registry.types source target converter with
  | some error => simp
  | none => simp

end Conversion.Registry
