import Conversion.Proofs.Registry.StepRun

/-!
# Where a run of registrars stops

When the registrars of a registry are run again, everything depends on the first step that fails.
The steps before it have had their effect on an empty table and an empty book of rules, the failing
one has none, and those behind it are not taken. The error is that of the step, wrapped once for
each registrar that was running, and only a run without a failure reports that the registry is
initialized. `reinitialize_stops_at_first_failure` says all of this.
-/

namespace Conversion

open Conversion.Action

open Registry

/-! ### What steps report -/

/-- Whether an event says that all registrars have run. -/
def Event.isInitialized : Event → Bool
  | initialized .. => true
  | _ => false

theorem Event.isInitialized_of_isDiagnostic (event : Event)
    (diagnostic : event.isDiagnostic = true) : event.isInitialized = false := by
  cases event with
  | initialized converters rules => cases diagnostic
  | _ => rfl

namespace Table

theorem isInitialized_of_fileAncestors (table : Table) (source requested : TypeKey)
    (converter : Converter) (chain : List TypeKey) :
    ∀ event ∈ (table.fileAncestors source requested converter chain).2,
      event.isInitialized = false := by
  induction chain generalizing table with
  | nil => simp [fileAncestors]
  | cons ancestor rest ih =>
      rw [fileAncestors]
      split
      · exact ih table
      · intro event reported
        rcases List.mem_append.mp reported with now | later
        · unfold fileAncestor at now
          split at now
          · rw [List.mem_singleton.mp now]
            rfl
          · split at now
            · cases now
            · rw [List.mem_singleton.mp now]
              rfl
        · exact ih _ event later

theorem isInitialized_of_file {table after : Table} {source target : TypeKey}
    {converter : Converter} {chain : List TypeKey} {events : List Event}
    (filed : table.file source target converter chain = some (after, events)) :
    ∀ event ∈ events, event.isInitialized = false := by
  simp only [file, Option.map_eq_some_iff, Prod.exists, Prod.mk.injEq] at filed
  rcases filed with ⟨own, ownEvents, ownFiled, rfl, rfl⟩
  intro event reported
  rcases List.mem_append.mp reported with now | later
  · unfold fileOwn at ownFiled
    split at ownFiled
    · split at ownFiled
      · cases ownFiled
        rw [List.mem_singleton.mp now]
        rfl
      · cases ownFiled
    · cases ownFiled
      rw [List.mem_singleton.mp now]
      rfl
  · exact isInitialized_of_fileAncestors _ _ _ _ _ event later

end Table

/-- Whether an action never says that all registrars have run. -/
abbrev Action.IsUnfinished {α : Type} (action : Action α) : Prop :=
  OnlyReports (fun event => event.isInitialized = false) action

namespace Registry

variable {source target : TypeKey}

theorem register_isUnfinished (converter : Converter) :
    IsUnfinished (register source target converter) := by
  intro registry event reported
  have prepared := prepare_isDiagnostic source target
  cases registered registry source target converter with
  | refused reason refusal result same events =>
      rw [events] at reported
      cases reported
  | duplicate admitted explicit result remembers events =>
      rw [events] at reported
      exact event.isInitialized_of_isDiagnostic (prepared registry event reported)
  | filed admitted table filingEvents filed result remembers events =>
      rw [events] at reported
      rcases List.mem_append.mp reported with before | filing
      · exact event.isInitialized_of_isDiagnostic (prepared registry event before)
      · exact Table.isInitialized_of_file filed event filing

theorem byAncestor_isUnfinished : IsUnfinished (byAncestor source target) :=
  (byAncestor_isDiagnostic source target).mono Event.isInitialized_of_isDiagnostic

theorem find_isUnfinished : IsUnfinished (find source target) :=
  OnlyReports.composes.find (OnlyReports.of_silent fun _ => rfl) byAncestor_isUnfinished
    (OnlyReports.of_silent fun _ => rfl) (OnlyReports.report rfl) (OnlyReports.report rfl)

theorem registerForAll_isUnfinished (sources : List TypeKey) (converter : Converter) :
    IsUnfinished (registerForAll sources target converter) :=
  OnlyReports.composes.inOrder_map fun _ => register_isUnfinished converter

end Registry

theorem Operation.perform_isUnfinished (operation : Operation) :
    IsUnfinished operation.perform := by
  cases operation with
  | register source target converter => exact (register_isUnfinished converter).map _
  | registerForAll sources target converter =>
      exact (registerForAll_isUnfinished sources converter).map _
  | registerRule rule =>
      intro registry event reported
      rw [List.mem_singleton.mp reported]
      rfl
  | byAncestor source target => exact byAncestor_isUnfinished.map _
  | find source target => exact find_isUnfinished.map _
  | convert value source target => exact (find_isUnfinished.map _).map _
  | _ => exact OnlyReports.of_silent fun _ => rfl

theorem Deed.attempt_isUnfinished (deed : Deed) : IsUnfinished deed.attempt := by
  cases deed with
  | register source target converter => exact register_isUnfinished converter
  | call operation => exact operation.perform_isUnfinished.map _
  | fail error => exact OnlyReports.done _

theorem Registry.isInitialized_of_reported (registry : Registry) (steps : List ScriptStep) :
    ∀ event ∈ registry.reported steps, event.isInitialized = false := by
  induction steps generalizing registry with
  | nil => simp [reported]
  | cons step rest ih =>
      intro event isReported
      rcases List.mem_append.mp isReported with now | later
      · exact step.deed.attempt_isUnfinished registry event now
      · exact ih _ event later

/-! ### Running the registrars again -/

namespace Registry

variable {registry : Registry}

/-- The steps that the registrars of a registry take when they are run again. -/
def steps (registry : Registry) : List ScriptStep :=
  Registrar.unroll registry.serial registry.registrars

theorem reinitialize_eq_runSteps (registry : Registry) :
    reinitialize registry = (runSteps registry.steps).followedBy reportInitialized registry.clear :=
  Attempt.followedBy_congr (runAll_eq_runSteps registry.registrars registry.clear) fun _ => rfl

theorem reinitialize_of_allSucceed (succeed : registry.clear.AllSucceed registry.steps) :
    let final := registry.clear.afterSteps registry.steps
    reinitialize registry =
      ⟨.ok (), final, registry.clear.reported registry.steps ++
        [.initialized final.converterCount final.ruleCount]⟩ := by
  rw [reinitialize_eq_runSteps]
  simp [Attempt.followedBy, andThen, runSteps_of_allSucceed succeed, reportInitialized]

theorem reinitialize_of_failure {before later : List ScriptStep} {step : ScriptStep}
    {error : RegistryError} (split : registry.steps = before ++ step :: later)
    (succeed : registry.clear.AllSucceed before)
    (failed : (step.deed.attempt (registry.clear.afterSteps before)).result = .error error) :
    reinitialize registry =
      ⟨.error (error.through step.path),
        (step.deed.attempt (registry.clear.afterSteps before)).registry,
        registry.clear.reported (before ++ [step])⟩ := by
  rw [reinitialize_eq_runSteps, split]
  simp [Attempt.followedBy, andThen, runSteps_of_failure succeed failed, Action.done]

theorem reinitialize_eq_ok_iff :
    (registry |> reinitialize).result = .ok () ↔ registry.clear.AllSucceed registry.steps := by
  constructor
  · intro isOk
    rcases allSucceed_or_exists_failure registry.clear registry.steps with
      succeed | ⟨before, step, later, error, split, succeed, failed⟩
    · exact succeed
    · rw [reinitialize_of_failure split succeed failed] at isOk
      cases isOk
  · intro succeed
    rw [reinitialize_of_allSucceed succeed]

/-- What running the registrars again comes to. Either all steps succeed, or one of them is the
first that fails, and then it is as if nothing stood behind it. The table and the rules that were
there before do not matter. -/
theorem reinitialize_stops_at_first_failure (registry : Registry) :
    let start := registry.clear
    let outcome := reinitialize registry
    (outcome.result = .ok () ↔ start.AllSucceed registry.steps) ∧
      (outcome.result = .ok () ↔ ∃ event ∈ outcome.events, event.isInitialized = true) ∧
      (outcome.result = .ok () →
        outcome.registry = start.afterSteps registry.steps ∧
          (∀ event ∈ start.reported registry.steps, event.isInitialized = false) ∧
          outcome.events = start.reported registry.steps ++
            [.initialized outcome.registry.converterCount outcome.registry.ruleCount]) ∧
      (∀ error, outcome.result = .error error →
        ∃ before step later own, registry.steps = before ++ step :: later ∧
          start.AllSucceed before ∧
          (step.deed.attempt (start.afterSteps before)).result = .error own ∧
          error = own.through step.path ∧
          Remembers (start.afterSteps before) outcome.registry ∧
          outcome.events = start.reported (before ++ [step])) ∧
      ∀ table rules, reinitialize { registry with table, rules } = outcome := by
  intro start outcome
  have unreported := start.isInitialized_of_reported
  have sameOutcome : ∀ table rules, reinitialize { registry with table, rules } = outcome :=
    fun _ _ => rfl
  refine ⟨reinitialize_eq_ok_iff, ?_⟩
  rcases allSucceed_or_exists_failure start registry.steps with
    succeed | ⟨before, step, later, own, split, succeed, failed⟩
  · have ended : outcome = ⟨.ok (), _, _⟩ := reinitialize_of_allSucceed succeed
    rw [ended] at sameOutcome ⊢
    refine ⟨?_, ?_, ?_, sameOutcome⟩
    · simp [Event.isInitialized]
    · intro _
      exact ⟨rfl, unreported registry.steps, rfl⟩
    · intro error isError
      cases isError
  · have ended : outcome = ⟨.error (own.through step.path), _, _⟩ :=
      reinitialize_of_failure split succeed failed
    rw [ended] at sameOutcome ⊢
    refine ⟨?_, ?_, ?_, sameOutcome⟩
    · simpa using unreported (before ++ [step])
    · intro isOk
      cases isOk
    · intro error isError
      cases isError
      exact ⟨before, step, later, own, split, succeed, failed, rfl, remembers_of_failed failed, rfl⟩

/-- A registrar with one call, which registers for two sources. -/
def halfway : Registrar where
  name := "halfway"
  script := [.registerForAll [.str, .char] .text
    (.existing ⟨.given 0, .dynamic fun value _ => .ok value⟩)]

/-- A call for several sources is not undone when it fails at one of them: nothing stands before it,
and yet the table is not empty afterwards. -/
theorem reinitialize_keeps_half_of_failed_call :
    let registry : Registry :=
      { types := (∅ : Hierarchy).declare (Declaration.of .char).hidden, registrars := [halfway],
        options := {} }
    halfway.script.length = 1 ∧
      (registry |> reinitialize).result = .error (.registrar "halfway" (.nonPublicSource .char)) ∧
      registry.clear.table.contains .str .text = false ∧
      (registry |> reinitialize).registry.table.contains .str .text = true :=
  ⟨rfl, by cbv, by decide +kernel, by decide +kernel⟩

end Registry

end Conversion
