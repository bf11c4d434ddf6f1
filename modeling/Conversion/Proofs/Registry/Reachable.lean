import Conversion.Builder
import Conversion.Proofs.Registry.Reporting

/-!
# Reachable registries

A registry is reachable when a program can arrive at it from a new one by operations, by running
registrars and by running all its registrars again. Scripts and registrars are no more than the
calls they make: each of them leaves what some history leaves and reports what that history reports.
So a reachable registry is always what a history leaves of a registry whose table was just emptied,
and its table records a log.
-/

namespace Conversion

namespace Action

variable {α β : Type}

/-- Whether an action always leaves and reports what some history does. -/
def IsHistory (action : Action α) : Prop :=
  ∀ registry, ∃ history, (action registry).registry = registry.after history ∧
    (action registry).events = (registry.reports history).map Report.event

namespace IsHistory

theorem done (result : α) : IsHistory (done result) :=
  fun _ => ⟨[], rfl, rfl⟩

theorem of_operation {action : Action α} (operation : Operation)
    (same : action.map (fun _ => ()) = operation.perform) : IsHistory action := by
  intro registry
  have sameOutcome := congrFun same registry
  refine ⟨[operation], congrArg Outcome.registry sameOutcome, ?_⟩
  rw [Registry.reports, Registry.reports, List.append_nil, Operation.reports,
    Report.map_event_ofEvents]
  exact congrArg Outcome.events sameOutcome

theorem andThen {first : Action α} {next : α → Action β} (isHistory : IsHistory first)
    (nextIsHistory : ∀ result, IsHistory (next result)) : IsHistory (first.andThen next) := by
  intro registry
  rcases isHistory registry with ⟨earlier, earlierRegistry, earlierEvents⟩
  rcases nextIsHistory (first registry).result (first registry).registry with
    ⟨later, laterRegistry, laterEvents⟩
  refine ⟨earlier ++ later, ?_⟩
  rw [Registry.after_append, Registry.reports_append, List.map_append, ← earlierRegistry,
    ← earlierEvents, ← laterEvents]
  exact ⟨laterRegistry, rfl⟩

theorem composes : Compositional fun _ action => IsHistory action :=
  ⟨done, andThen⟩

theorem edits : OfEdits fun _ action => IsHistory action where
  declare := fun declaration => of_operation (.declare declaration) rfl
  declareAll := fun declarations => of_operation (.declareAll declarations) rfl
  register := fun source target converter =>
    of_operation (.register source target converter) rfl
  registerRule := fun rule => of_operation (.registerRule rule) rfl
  nextIdentity := of_operation .takeIdentity rfl
  ask := fun question =>
    of_operation (.ofQuestion question) (Operation.perform_ofQuestion question).symm

end IsHistory

end Action

open Conversion.Action

theorem Registrar.run_isHistory (registrar : Registrar) : IsHistory registrar.run :=
  IsHistory.composes.run IsHistory.edits registrar

namespace Registry

theorem runAll_isHistory (registrars : List Registrar) : IsHistory (runAll registrars) :=
  IsHistory.composes.runAll IsHistory.edits registrars

/-- Running the registrars again leaves what a history leaves of the emptied registry. It reports
what that history reports and, when it succeeds, its end. -/
theorem reinitialize_eq_after (registry : Registry) :
    ∃ history, (registry |> reinitialize).registry = registry.clear.after history ∧
      ((registry |> reinitialize).events = (registry.clear.reports history).map Report.event ∨
        (registry |> reinitialize).events = (registry.clear.reports history).map Report.event ++
          (reportInitialized (registry.clear.after history)).events) := by
  rcases runAll_isHistory registry.registrars registry.clear with ⟨history, left, events⟩
  refine ⟨history, ?_⟩
  rw [← left, ← events]
  cases result : (runAll registry.registrars registry.clear).result with
  | error error =>
      exact ⟨followedBy_of_error result, Or.inl (events_followedBy_of_error result)⟩
  | ok => exact ⟨followedBy_of_ok result, Or.inr (events_followedBy_of_ok result)⟩

/-- What a program can make of a new registry. A registry that was cleared and whose registrars did
not run yet is what another thread can find while the registrars are run again. -/
inductive Reachable : Registry → Prop where
  | created (types : Hierarchy) (registrars : List Registrar) (options : Options)
      (serial : Nat) : Reachable { types, registrars, options, serial }
  | performed {registry : Registry} (operation : Operation) (reachable : Reachable registry) :
      Reachable (operation.perform registry).registry
  | ran {registry : Registry} (registrar : Registrar) (reachable : Reachable registry) :
      Reachable (registrar.run registry).registry
  | cleared {registry : Registry} (reachable : Reachable registry) : Reachable registry.clear
  | reinitialized {registry : Registry} (reachable : Reachable registry) :
      Reachable (registry |> reinitialize).registry

theorem Reachable.built (builder : Builder) (serial : Nat) :
    Reachable (builder.build serial).registry :=
  .reinitialized (.created _ _ _ _)

theorem Reachable.after {registry : Registry} (reachable : Reachable registry)
    (history : List Operation) : Reachable (registry.after history) := by
  induction history generalizing registry with
  | nil => exact reachable
  | cons operation rest ih => exact ih (.performed operation reachable)

/-- A reachable registry has a history since its table was last emptied. -/
theorem Reachable.exists_history {registry : Registry} (reachable : Reachable registry) :
    ∃ (origin : Registry) (history : List Operation),
      registry = origin.clear.after history := by
  induction reachable with
  | created types registrars options serial =>
      exact ⟨{ types, registrars, options, serial }, [], rfl⟩
  | performed operation _ ih =>
      rcases ih with ⟨origin, history, rfl⟩
      refine ⟨origin, history ++ [operation], ?_⟩
      rw [after_append]
      rfl
  | ran registrar _ ih =>
      rcases ih with ⟨origin, history, rfl⟩
      rcases registrar.run_isHistory (origin.clear.after history) with ⟨run, runEq, _⟩
      refine ⟨origin, history ++ run, ?_⟩
      rw [after_append]
      exact runEq
  | @cleared before _ _ => exact ⟨before, [], rfl⟩
  | @reinitialized before _ _ =>
      rcases reinitialize_eq_after before with ⟨history, same, _⟩
      exact ⟨before, history, same⟩

theorem Reachable.exists_records {registry : Registry} (reachable : Reachable registry) :
    ∃ log, registry.table.Records log := by
  rcases reachable.exists_history with ⟨origin, history, rfl⟩
  exact ⟨origin.clear.filings history, records_after_clear origin history⟩

end Registry

end Conversion
