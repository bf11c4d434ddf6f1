import Conversion.Proofs.Registry.History
import Conversion.Proofs.Table.Steps

/-!
# What a history reports

Every operation is a run of steps of the table that reports what the operation reports
(`steps_perform`), and so is every history (`steps_reports`). Lookups report no writes. A
registration reports what it finds redundant, which is no write either, and then what its filing
reports.
-/

namespace Conversion

/-- Whether an event is reported only when the options ask for it. -/
def Event.isDiagnostic : Event → Bool
  | redundant .. => true
  | ambiguous .. => true
  | _ => false

theorem Event.idle_of_isDiagnostic (event : Event) (diagnostic : event.isDiagnostic = true) :
    event.isWrite = false := by
  cases event with
  | registered source target => cases diagnostic
  | replaced source target => cases diagnostic
  | _ => rfl

namespace Action

variable {α β : Type}

/-- Whether all that an action reports is allowed. -/
def OnlyReports (allowed : Event → Prop) (action : Action α) : Prop :=
  ∀ registry, ∀ event ∈ (action registry).events, allowed event

namespace OnlyReports

variable {allowed : Event → Prop}

theorem of_silent {action : Action α} (silent : ∀ registry, (action registry).events = []) :
    OnlyReports allowed action := by
  intro registry event reported
  rw [silent registry] at reported
  cases reported

theorem done (result : α) : OnlyReports allowed (done result) :=
  of_silent fun _ => rfl

theorem query (ask : Hierarchy → α × Hierarchy) : OnlyReports allowed (query ask) :=
  of_silent fun _ => rfl

theorem report {event : Event} (isAllowed : allowed event) :
    OnlyReports allowed (report [event]) := by
  intro registry other reported
  rw [List.mem_singleton.mp reported]
  exact isAllowed

theorem mono {action : Action α} {permitted : Event → Prop}
    (reports : OnlyReports allowed action) (implies : ∀ event, allowed event → permitted event) :
    OnlyReports permitted action :=
  fun registry event reported => implies event (reports registry event reported)

theorem map {action : Action α} (reports : OnlyReports allowed action) (change : α → β) :
    OnlyReports allowed (action.map change) :=
  reports

theorem bind {first : Action α} {next : α → Action β} (reports : OnlyReports allowed first)
    (nextReports : ∀ result, OnlyReports allowed (next result)) :
    OnlyReports allowed (first >>= next) := by
  intro registry event reported
  rcases List.mem_append.mp reported with earlier | later
  · exact reports registry event earlier
  · exact nextReports _ _ event later

theorem composes : Compositional fun _ action => OnlyReports allowed action :=
  ⟨done, bind⟩

end OnlyReports

/-- Whether an action reports nothing unless the options ask for it. -/
abbrev IsDiagnostic (action : Action α) : Prop :=
  OnlyReports (fun event => event.isDiagnostic = true) action

/-- Whether an action reports no write to the table. -/
abbrev IsIdle (action : Action α) : Prop :=
  OnlyReports (fun event => event.isWrite = false) action

end Action

namespace Registry

open Conversion.Action

variable {source target : TypeKey} {converter : Converter} {registry : Registry}

theorem reportAmbiguity_isDiagnostic (source target : TypeKey) (chain : List TypeKey) :
    IsDiagnostic (reportAmbiguity source target chain) := by
  intro registry event reported
  unfold reportAmbiguity at reported
  split at reported
  · dsimp only at reported
    split at reported
    · rw [List.mem_singleton.mp reported]
      rfl
    · cases reported
  · cases reported

theorem reportRedundancy_isDiagnostic (source target : TypeKey) :
    IsDiagnostic (reportRedundancy source target) := by
  intro registry event reported
  unfold reportRedundancy at reported
  split at reported
  · dsimp only at reported
    split at reported
    · rw [List.mem_singleton.mp reported]
      rfl
    · cases reported
  · cases reported

theorem byAncestor_isDiagnostic (source target : TypeKey) :
    IsDiagnostic (byAncestor source target) := by
  refine OnlyReports.bind (OnlyReports.query _) ?_
  intro chain
  exact OnlyReports.bind (reportAmbiguity_isDiagnostic source target chain) fun _ =>
    OnlyReports.of_silent fun _ => rfl

theorem byAncestor_isIdle (source target : TypeKey) : IsIdle (byAncestor source target) :=
  (byAncestor_isDiagnostic source target).mono Event.idle_of_isDiagnostic

theorem byRule_isIdle (source target : TypeKey) : IsIdle (byRule source target) :=
  OnlyReports.of_silent fun _ => rfl

theorem exact_isIdle (source target : TypeKey) : IsIdle (exact source target) :=
  OnlyReports.of_silent fun _ => rfl

theorem find_isIdle (source target : TypeKey) : IsIdle (find source target) :=
  OnlyReports.composes.find (exact_isIdle source target) (byAncestor_isIdle source target)
    (byRule_isIdle source target) (OnlyReports.report rfl) (OnlyReports.report rfl)

theorem convertAs_isIdle (value : Value) (source target : TypeKey) :
    IsIdle (convertAs value source target) :=
  (find_isIdle source target).map _

theorem prepare_isDiagnostic (source target : TypeKey) : IsDiagnostic (prepare source target) :=
  OnlyReports.bind (reportRedundancy_isDiagnostic source target) fun _ => OnlyReports.query _

theorem prepare_isIdle (source target : TypeKey) : IsIdle (prepare source target) :=
  (prepare_isDiagnostic source target).mono Event.idle_of_isDiagnostic

/-! ### Registrations -/

theorem steps_register (source target : TypeKey) (converter : Converter) (registry : Registry) :
    Table.Steps registry.table
      (Report.ofEvents (some target) registry.types.declarations
        (register source target converter registry).events)
      (register source target converter registry).registry.table := by
  have prepared : ∀ event ∈ (prepare source target registry).events, event.isWrite = false :=
    prepare_isIdle source target registry
  cases registered registry source target converter with
  | refused error refusal result same events =>
      rw [events, same]
      exact .nil registry.table
  | duplicate admitted explicit result remembers events =>
      rw [events, remembers.table]
      exact .of_idle registry.table (Report.idle_of_mem_ofEvents prepared)
  | filed admitted table filingEvents filed result remembers events =>
      rw [events, remembers.table, Report.ofEvents_append]
      exact (Table.Steps.of_idle registry.table (Report.idle_of_mem_ofEvents prepared)).append
        (Table.steps_of_file filed)

theorem events_followedBy_of_ok {first second : Attempt}
    (succeeded : (first registry).result = .ok ()) :
    (first.followedBy second registry).events =
      (first registry).events ++ (second (first registry).registry).events := by
  simp only [Attempt.followedBy, Action.andThen, succeeded]

theorem events_followedBy_of_error {first second : Attempt} {error : RegistryError}
    (failed : (first registry).result = .error error) :
    (first.followedBy second registry).events = (first registry).events := by
  simp only [Attempt.followedBy, Action.andThen, failed, Action.done, List.append_nil]

theorem steps_registerForAll (sources : List TypeKey) (target : TypeKey) (converter : Converter)
    (registry : Registry) :
    Table.Steps registry.table
      (Report.ofEvents (some target) registry.types.declarations
        (registerForAll sources target converter registry).events)
      (registerForAll sources target converter registry).registry.table := by
  induction sources generalizing registry with
  | nil => exact .nil registry.table
  | cons source rest ih =>
      have first := steps_register source target converter registry
      rw [registerForAll_cons]
      cases result : (register source target converter registry).result with
      | error error =>
          rw [events_followedBy_of_error result, followedBy_of_error result]
          exact first
      | ok =>
          rcases register_frame source target converter registry with ⟨table, remembers⟩
          have others := ih (register source target converter registry).registry
          rw [remembers.declarations] at others
          rw [events_followedBy_of_ok result, followedBy_of_ok result, Report.ofEvents_append]
          exact first.append others

end Registry

namespace Operation

open Registry

/-- The target of the registrations in an operation. -/
def requested? : Operation → Option TypeKey
  | register _ target _ => some target
  | registerForAll _ target _ => some target
  | _ => none

/-- What an operation reports. -/
def reports (operation : Operation) (registry : Registry) : List Report :=
  Report.ofEvents operation.requested? registry.types.declarations
    (operation.perform registry).events

variable {operation : Operation} {registry : Registry}

theorem perform_isIdle (asks : operation.onlyAsks = true) : Action.IsIdle operation.perform := by
  cases operation with
  | ancestors key => exact Action.OnlyReports.of_silent fun _ => rfl
  | isAssignable source target => exact Action.OnlyReports.of_silent fun _ => rfl
  | areConvertible left right => exact Action.OnlyReports.of_silent fun _ => rfl
  | exact source target => exact (exact_isIdle source target).map _
  | byAncestor source target => exact (byAncestor_isIdle source target).map _
  | byRule source target => exact (byRule_isIdle source target).map _
  | find source target => exact (find_isIdle source target).map _
  | convert value source target => exact (convertAs_isIdle value source target).map _
  | _ => cases asks

/-- An operation is a run of steps. -/
theorem steps_perform (operation : Operation) (registry : Registry) :
    Table.Steps registry.table (operation.reports registry)
      (operation.perform registry).registry.table := by
  cases asks : operation.onlyAsks with
  | true =>
      rw [(perform_onlyAsks asks registry).table]
      exact .of_idle registry.table (Report.idle_of_mem_ofEvents (perform_isIdle asks registry))
  | false =>
      cases operation with
      | declare declaration => exact .nil registry.table
      | declareAll declarations => exact .nil registry.table
      | register source target converter => exact steps_register source target converter registry
      | registerForAll sources target converter =>
          exact steps_registerForAll sources target converter registry
      | registerRule rule => exact .single (.idle rfl)
      | takeIdentity => exact .nil registry.table
      | _ => cases asks

end Operation

namespace Registry

/-- What a history reports, the earliest first. -/
def reports (registry : Registry) : List Operation → List Report
  | [] => []
  | operation :: rest =>
      operation.reports registry ++ (operation.perform registry).registry.reports rest

theorem reports_append (registry : Registry) (earlier later : List Operation) :
    registry.reports (earlier ++ later) =
      registry.reports earlier ++ (registry.after earlier).reports later := by
  induction earlier generalizing registry with
  | nil => rfl
  | cons operation rest ih =>
      rw [List.cons_append, reports, reports, ih, List.append_assoc]
      rfl

/-- A history is a run of steps. -/
theorem steps_reports (registry : Registry) (history : List Operation) :
    Table.Steps registry.table (registry.reports history) (registry.after history).table := by
  induction history generalizing registry with
  | nil => exact .nil registry.table
  | cons operation rest ih => exact (operation.steps_perform registry).append (ih _)

end Registry

end Conversion
