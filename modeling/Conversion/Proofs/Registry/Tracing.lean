import Conversion.Proofs.Registry.Reachable
import Conversion.Proofs.Table.Account

/-!
# The log since the table was empty

A registry is traced from the moment at which its table was empty: a new one from the start, any
other from the clearing on. From then on the log grows with every operation. Registrars, a new run
of all of them and the building of a registry add what the operations in them report, so these keep
to the trace as well (`Traced.ran`, `Traced.reinitialized`, `Traced.built`).

The main statement, `log_accounts_for_table`, is that the log of a traced registry accounts for its
table.
-/

namespace Conversion.Registry

open Report

/-- A registry with all that it reported since its table was last empty. -/
inductive Traced : Registry → List Report → Prop where
  | created (types : Hierarchy) (registrars : List Registrar) (options : Options)
      (serial : Nat) : Traced { types, registrars, options, serial } []
  | cleared {registry : Registry} {log : List Report} (traced : Traced registry log) :
      Traced registry.clear []
  | performed {registry : Registry} {log : List Report} (operation : Operation)
      (traced : Traced registry log) :
      Traced (operation.perform registry).registry (log ++ operation.reports registry)
  /-- The report that all registrars have run. -/
  | initialized {registry : Registry} {log : List Report} (traced : Traced registry log) :
      Traced registry
        (log ++ ofEvents none registry.types.declarations (reportInitialized registry).events)

namespace Traced

variable {registry : Registry} {log : List Report}

theorem after (traced : Traced registry log) (history : List Operation) :
    Traced (registry.after history) (log ++ registry.reports history) := by
  induction history generalizing registry log with
  | nil =>
      rw [reports, List.append_nil]
      exact traced
  | cons operation rest ih =>
      rw [reports, ← List.append_assoc]
      exact ih (.performed operation traced)

theorem of_isHistory {α : Type} {action : Action α} (isHistory : action.IsHistory)
    (traced : Traced registry log) :
    ∃ later, Traced (action registry).registry (log ++ later) ∧
      later.map event = (action registry).events := by
  rcases isHistory registry with ⟨history, left, events⟩
  refine ⟨registry.reports history, ?_, events.symm⟩
  rw [left]
  exact traced.after history

theorem ran (registrar : Registrar) (traced : Traced registry log) :
    ∃ later, Traced (registrar.run registry).registry (log ++ later) ∧
      later.map event = (registrar.run registry).events :=
  traced.of_isHistory registrar.run_isHistory

/-- Running all registrars again starts a new log, which is what this run reports. -/
theorem reinitialized (traced : Traced registry log) :
    ∃ since, Traced (registry |> reinitialize).registry since ∧
      since.map event = (registry |> reinitialize).events := by
  rcases reinitialize_eq_after registry with ⟨history, left, events⟩
  have running := traced.cleared.after history
  rw [List.nil_append] at running
  rw [left]
  rcases events with failed | succeeded
  · exact ⟨_, running, failed.symm⟩
  · refine ⟨_, running.initialized, ?_⟩
    rw [List.map_append, map_event_ofEvents, succeeded]

theorem built (builder : Builder) (serial : Nat) :
    ∃ log, Traced (builder.build serial).registry log ∧
      log.map event = (builder.build serial).events := by
  have assembled : Traced (builder.assemble serial) [] := .created _ _ _ _
  exact assembled.reinitialized

theorem toldBy (traced : Traced registry log) : registry.table.ToldBy log := by
  induction traced with
  | created types registrars options serial => exact Table.ToldBy.empty
  | cleared _ _ => exact Table.ToldBy.empty
  | @performed registry log operation _ ih =>
      exact Table.Steps.preserve Table.ToldBy.step (operation.steps_perform registry) ih
  | initialized _ ih => exact ih.idle rfl

end Traced

/-- The log accounts for the table: the pairs that were reported as registered are the pairs that
are served, each of them once; a pair is reported as replaced once at most, after it was registered;
and the derived pairs are those that were registered for an ancestor and not replaced since. -/
theorem log_accounts_for_table {registry : Registry} {log : List Report}
    (traced : Traced registry log) :
    registry.table.ToldBy log ∧ registry.converterCount = (registeredPairs log).length :=
  ⟨traced.toldBy, traced.toldBy.length_registeredPairs.symm⟩

/-- Text has an ancestor, and one conversion to the ancestor is registered in its own right. -/
def wordRegistrar : Registrar where
  name := "words"
  script :=
    [ .declare ((Declaration.of .string).implementing .text),
      .register .bool .string (.anew (.total .bool .string fun _ => "word")),
      .register .bool .text (.anew (.total .bool .string fun _ => "other word")),
      .registerRule (.anew (.fixedTarget .bool (fun _ => true) fun _ => .ok true)),
      .register .char .string (.anew (.total .char .string fun _ => "letter")) ]

/-- The registrar ran to its end, and then again until it met a type that is private by then. -/
def interrupted : Registry :=
  (({ registrars := [wordRegistrar] : Builder }.build 0).registry.after
    [.declare (Declaration.of .char).hidden] |> reinitialize).registry

/-- The second registration of the two fails, and so does the registrar when it is run once more. -/
def resumed : Registry :=
  (wordRegistrar.run
    (interrupted.after
      [.registerForAll [.str, .str] .string ⟨.given 0, .total .str .string id⟩])).registry

theorem log_accounts_after_interruption :
    ∃ log, Traced resumed log ∧
      log.map event =
        [.registered .bool .string, .registered .bool .text, .replaced .bool .text,
          .ruleRegistered .fixedTarget, .registered .str .string, .registered .str .text] ∧
      resumed.table.ToldBy log ∧ resumed.converterCount = (registeredPairs log).length := by
  rcases Traced.built { registrars := [wordRegistrar] } 0 with ⟨_, built, _⟩
  rcases (built.after [.declare (Declaration.of .char).hidden]).reinitialized with
    ⟨since, restarted, sinceEvents⟩
  rcases (restarted.after
      [.registerForAll [.str, .str] .string ⟨.given 0, .total .str .string id⟩]).ran
      wordRegistrar with
    ⟨later, traced, laterEvents⟩
  refine ⟨_, traced, ?_, log_accounts_for_table traced⟩
  rw [List.map_append, List.map_append, sinceEvents, laterEvents, reports, reports,
    List.append_nil, Operation.reports, map_event_ofEvents]
  decide +kernel

end Conversion.Registry
