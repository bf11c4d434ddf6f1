import Conversion.Proofs.Hierarchy.LastDeclaration
import Conversion.Proofs.Registry.Reporting
import Conversion.Proofs.Registry.Unrolling

/-!
# Taking steps

Steps are taken one after another up to the first that fails: a list of steps is either taken as a
whole or has a first step that fails (`allSucceed_or_exists_failure`), and in both cases the outcome
is that of the steps that were taken. What steps leave alone is read off them one by one: no step
changes the registrars, and the declarations and the rules are what was declared and added on the
way. Steps that declare nothing succeed if the checks let every registration pass and no pair is
asked for twice (`records_of_admitted`), and the table then records them all.
-/

namespace Conversion

open Conversion.Action

namespace Registry

/-- The registry after some steps, whether they succeed or not. -/
def afterSteps (registry : Registry) : List ScriptStep → Registry
  | [] => registry
  | step :: rest => (step.deed.attempt registry).registry.afterSteps rest

def reported (registry : Registry) : List ScriptStep → List Event
  | [] => []
  | step :: rest =>
      let outcome := step.deed.attempt registry
      outcome.events ++ outcome.registry.reported rest

/-- Whether each of some steps succeeds when its turn comes. -/
def AllSucceed (registry : Registry) : List ScriptStep → Prop
  | [] => True
  | step :: rest =>
      let outcome := step.deed.attempt registry
      outcome.result = .ok () ∧ outcome.registry.AllSucceed rest

theorem afterSteps_cons (registry : Registry) (step : ScriptStep) (rest : List ScriptStep) :
    registry.afterSteps (step :: rest) =
      (step.deed.attempt registry).registry.afterSteps rest :=
  rfl

theorem allSucceed_cons (registry : Registry) (step : ScriptStep) (rest : List ScriptStep) :
    registry.AllSucceed (step :: rest) ↔ (step.deed.attempt registry).result = .ok () ∧
      (step.deed.attempt registry).registry.AllSucceed rest :=
  Iff.rfl

theorem afterSteps_append (registry : Registry) (earlier later : List ScriptStep) :
    registry.afterSteps (earlier ++ later) = (registry.afterSteps earlier).afterSteps later := by
  induction earlier generalizing registry with
  | nil => rfl
  | cons step rest ih => exact ih _

theorem allSucceed_append (registry : Registry) (earlier later : List ScriptStep) :
    registry.AllSucceed (earlier ++ later) ↔
      registry.AllSucceed earlier ∧ (registry.afterSteps earlier).AllSucceed later := by
  induction earlier generalizing registry with
  | nil => simp [AllSucceed, afterSteps]
  | cons step rest ih =>
      simp only [List.cons_append, allSucceed_cons, afterSteps_cons, ih, and_assoc]

end Registry

open Registry

/-! ### The first failure -/

section Steps

variable {registry : Registry} {steps before later : List ScriptStep} {step : ScriptStep}
  {error : RegistryError}

theorem runSteps_cons (step : ScriptStep) (later : List ScriptStep) :
    runSteps (step :: later) =
      (step.deed.attempt.through step.path).followedBy (runSteps later) :=
  rfl

theorem runSteps_cons_of_ok (succeeded : (step.deed.attempt registry).result = .ok ()) :
    runSteps (step :: later) registry =
      ⟨(runSteps later (step.deed.attempt registry).registry).result,
        (runSteps later (step.deed.attempt registry).registry).registry,
        (step.deed.attempt registry).events ++
          (runSteps later (step.deed.attempt registry).registry).events⟩ := by
  rw [runSteps_cons]
  simp only [Attempt.followedBy, Attempt.through, andThen, Action.map, succeeded]
  rfl

theorem runSteps_cons_of_error (failed : (step.deed.attempt registry).result = .error error) :
    runSteps (step :: later) registry =
      ⟨.error (error.through step.path), (step.deed.attempt registry).registry,
        (step.deed.attempt registry).events⟩ := by
  rw [runSteps_cons]
  simp [Attempt.followedBy, Attempt.through, andThen, Action.map, failed, Except.mapError,
    Action.done]

theorem runSteps_of_allSucceed (succeed : registry.AllSucceed steps) :
    runSteps steps registry = ⟨.ok (), registry.afterSteps steps, registry.reported steps⟩ := by
  induction steps generalizing registry with
  | nil => rfl
  | cons step rest ih =>
      rw [runSteps_cons_of_ok succeed.1, ih succeed.2]
      rfl

theorem runSteps_of_failure (succeed : registry.AllSucceed before)
    (failed : (step.deed.attempt (registry.afterSteps before)).result = .error error) :
    runSteps (before ++ step :: later) registry =
      ⟨.error (error.through step.path),
        (step.deed.attempt (registry.afterSteps before)).registry,
        registry.reported (before ++ [step])⟩ := by
  induction before generalizing registry with
  | nil =>
      have failedHere : (step.deed.attempt registry).result = .error error := failed
      rw [List.nil_append, runSteps_cons_of_error failedHere]
      simp [afterSteps, reported]
  | cons first rest ih =>
      rw [List.cons_append, runSteps_cons_of_ok succeed.1, ih succeed.2 failed]
      rfl

theorem allSucceed_or_exists_failure (registry : Registry) (steps : List ScriptStep) :
    registry.AllSucceed steps ∨
      ∃ before step later error, steps = before ++ step :: later ∧ registry.AllSucceed before ∧
        (step.deed.attempt (registry.afterSteps before)).result = .error error := by
  induction steps generalizing registry with
  | nil => exact Or.inl trivial
  | cons step rest ih =>
      cases result : (step.deed.attempt registry).result with
      | error error => exact Or.inr ⟨[], step, rest, error, rfl, trivial, result⟩
      | ok =>
          rcases ih (step.deed.attempt registry).registry with
            succeed | ⟨before, failing, later, error, rfl, succeed, failed⟩
          · exact Or.inl ⟨result, succeed⟩
          · exact Or.inr ⟨step :: before, failing, later, error, rfl, ⟨result, succeed⟩, failed⟩

/-- A step that fails leaves the registry as it was, but for remembered chains. -/
theorem remembers_of_failed (failed : (step.deed.attempt registry).result = .error error) :
    Remembers registry (step.deed.attempt registry).registry := by
  rcases step with ⟨path, deed⟩
  cases deed with
  | register source target converter => exact remembers_of_refused failed
  | call operation => cases failed
  | fail reason => exact Remembers.refl registry

end Steps

/-! ### What steps change -/

namespace Deed

def declared : Deed → List Declaration
  | call (.declare declaration) => [declaration]
  | call (.declareAll declarations) => declarations
  | _ => []

def rule? : Deed → Option Rule
  | call (.registerRule rule) => some rule
  | _ => none

def registers : Deed → Bool
  | register .. => true
  | _ => false

theorem registrars_attempt (deed : Deed) (registry : Registry) :
    (deed.attempt registry).registry.registrars = registry.registrars := by
  cases deed with
  | register source target converter =>
      exact Operation.registrars_perform (.register source target converter) registry
  | call operation => exact operation.registrars_perform registry
  | fail error => rfl

theorem declarations_attempt (deed : Deed) (registry : Registry) :
    (deed.attempt registry).registry.types.declarations =
      registry.types.declarations.declareAll deed.declared := by
  cases deed with
  | register source target converter =>
      rcases register_frame source target converter registry with ⟨table, remembers⟩
      exact remembers.declarations
  | call operation =>
      cases operation with
      | declare declaration => rfl
      | declareAll declarations => rfl
      | _ => exact Operation.declarations_perform rfl
  | fail error => rfl

theorem rules_attempt (deed : Deed) (registry : Registry) :
    (deed.attempt registry).registry.rules =
      (deed.rule?.elim registry.rules registry.rules.add) := by
  cases deed with
  | register source target converter =>
      rcases register_frame source target converter registry with ⟨table, remembers⟩
      exact remembers.rules
  | call operation =>
      cases operation with
      | registerRule rule => rfl
      | _ => exact Operation.rules_perform rfl
  | fail error => rfl

end Deed

namespace Registry

theorem registrars_afterSteps (registry : Registry) (steps : List ScriptStep) :
    (registry.afterSteps steps).registrars = registry.registrars := by
  induction steps generalizing registry with
  | nil => rfl
  | cons step rest ih => exact (ih _).trans (step.deed.registrars_attempt registry)

theorem declarations_afterSteps (registry : Registry) (steps : List ScriptStep) :
    (registry.afterSteps steps).types.declarations =
      registry.types.declarations.declareAll (steps.flatMap (·.deed.declared)) := by
  induction steps generalizing registry with
  | nil => rfl
  | cons step rest ih =>
      rw [afterSteps, ih, step.deed.declarations_attempt, ← Declarations.declareAll_append]
      rfl

theorem rules_afterSteps (registry : Registry) (steps : List ScriptStep) :
    (registry.afterSteps steps).rules =
      (steps.filterMap (·.deed.rule?)).foldl RuleBook.add registry.rules := by
  induction steps generalizing registry with
  | nil => rfl
  | cons step rest ih =>
      rw [afterSteps, ih, step.deed.rules_attempt]
      cases added : step.deed.rule? <;> simp [added]

end Registry

/-! ### Steps that declare nothing -/

namespace Deed

/-- The filing of a registration that succeeds. -/
def filing? (declarations : Declarations) : Deed → Option Filing
  | register source target converter =>
      some ⟨source, target, converter, declarations.walk target⟩
  | _ => none

/-- Whether a step does not fail on an empty table and declares nothing. -/
def IsAdmitted (types : Hierarchy) : Deed → Prop
  | register source target converter => refusal? types source target converter = none
  | call operation => operation.declares = false ∧ operation.requested? = none
  | fail _ => False

variable {registry : Registry} {types : Hierarchy} {log : List Filing}

theorem declared_of_isAdmitted {deed : Deed} (admitted : deed.IsAdmitted types) :
    deed.declared = [] := by
  cases deed with
  | register source target converter => rfl
  | call operation =>
      cases operation with
      | declare declaration => cases admitted.1
      | declareAll declarations => cases admitted.1
      | _ => rfl
  | fail error => rfl

/-- A step that the checks let pass succeeds when its pair was not asked for before. -/
theorem records_attempt {deed : Deed} (same : registry.types.declarations = types.declarations)
    (admitted : deed.IsAdmitted types) (records : registry.table.Records log)
    (fresh : ∀ filing ∈ deed.filing? types.declarations,
      ∀ earlier ∈ log, ¬filing.IsFor earlier.source earlier.target) :
    (deed.attempt registry).result = .ok () ∧
      (deed.attempt registry).registry.table.Records
        (log ++ (deed.filing? types.declarations).toList) := by
  cases deed with
  | register source target converter =>
      have succeeded : (Registry.register source target converter registry).result = .ok () := by
        rw [register_eq_ok_iff, refusal?_congr same, records.isExplicit_iff]
        refine ⟨admitted, ?_⟩
        rintro ⟨earlier, logged, rfl, rfl⟩
        exact fresh _ rfl earlier logged ⟨rfl, rfl⟩
      refine ⟨succeeded, ?_⟩
      rw [filing?, ← same, Option.toList_some, ← filed_of_ok succeeded]
      exact records_register records
  | call operation =>
      have unfiled : operation.filings registry = [] := by
        cases operation with
        | register source target converter => cases admitted.2
        | registerForAll sources target converter => cases admitted.2
        | _ => rfl
      have recorded : (operation.perform registry).registry.table.Records
          (log ++ operation.filings registry) := Operation.records_perform records
      rw [unfiled] at recorded
      exact ⟨rfl, recorded⟩
  | fail error => cases admitted

end Deed

namespace Registry

/-- Steps that declare nothing and ask for no pair twice are recorded one by one. -/
theorem records_of_admitted {registry : Registry} {types : Hierarchy} {log : List Filing}
    {steps : List ScriptStep} (same : registry.types.declarations = types.declarations)
    (admitted : ∀ step ∈ steps, step.deed.IsAdmitted types) (records : registry.table.Records log)
    (distinct : (log ++ steps.filterMap (·.deed.filing? types.declarations)).Pairwise
      fun earlier later => ¬later.IsFor earlier.source earlier.target) :
    registry.AllSucceed steps ∧
      (registry.afterSteps steps).types.declarations = types.declarations ∧
      (registry.afterSteps steps).table.Records
        (log ++ steps.filterMap (·.deed.filing? types.declarations)) := by
  induction steps generalizing registry log with
  | nil =>
      rw [List.filterMap_nil, List.append_nil]
      exact ⟨trivial, same, records⟩
  | cons step rest ih =>
      have admittedNow := admitted step List.mem_cons_self
      have kept : (step.deed.attempt registry).registry.types.declarations =
          types.declarations := by
        rw [step.deed.declarations_attempt, step.deed.declared_of_isAdmitted admittedNow]
        exact same
      have split : (step :: rest).filterMap (·.deed.filing? types.declarations) =
          (step.deed.filing? types.declarations).toList ++
            rest.filterMap (·.deed.filing? types.declarations) := by
        cases found : step.deed.filing? types.declarations <;> simp [found]
      rw [split, ← List.append_assoc] at distinct ⊢
      have fresh : ∀ filing ∈ step.deed.filing? types.declarations,
          ∀ earlier ∈ log, ¬filing.IsFor earlier.source earlier.target := by
        intro filing found earlier logged
        have apart := (List.pairwise_append.mp (List.pairwise_append.mp distinct).1).2.2
        exact apart earlier logged filing (Option.mem_toList.mpr found)
      rcases step.deed.records_attempt same admittedNow records fresh with ⟨succeeded, recorded⟩
      have restAdmitted := fun later laterMem =>
        admitted later (List.mem_cons_of_mem step laterMem)
      rcases ih kept restAdmitted recorded distinct with ⟨succeed, final⟩
      exact ⟨⟨succeeded, succeed⟩, final⟩

end Registry

end Conversion
