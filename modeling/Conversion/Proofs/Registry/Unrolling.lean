import Mathlib.Data.List.Forall2
import Conversion.Proofs.Registry.Operation

/-!
# Scripts step by step

A script may run other registrars, which run others in turn. Unrolled it is a plain list of steps: a
registration for several sources gives one step for each of them, the making of an object is a step
of its own, and every step knows the registrars that are running when its turn comes. What an object
is identified by depends on the serial number at the start of the run and on nothing else, so the
list is known beforehand.

The main statement, `performAll_eq_runSteps`, is that a script does what its steps do one after
another up to the first that fails, with an error wrapped once for each registrar on its path. Of
several registrars the steps are those of the first, then those of the second and so on
(`exists_runs_runAll`).
-/

namespace Conversion

/-- What is done in one step of a run. -/
inductive Deed where
  | register (source target : TypeKey) (converter : Converter)
  /-- An operation that does not fail. -/
  | call (operation : Operation)
  | fail (error : RegistryError)

/-- One step of a run, with the registrars that are running, the outermost first. -/
structure ScriptStep where
  path : List String
  deed : Deed

/-- An error as it comes out of the registrars that are running. -/
def RegistryError.through (path : List String) (error : RegistryError) : RegistryError :=
  path.foldr .registrar error

namespace Attempt

theorem eq_ok_of_isOk {result : Except RegistryError Unit} (isOk : result.isOk = true) :
    result = .ok () := by
  cases result with
  | ok => rfl
  | error error => cases isOk

/-- An attempt whose error comes out of the registrars that are running. -/
def through (path : List String) (attempt : Attempt) : Attempt :=
  attempt.map (Except.mapError (RegistryError.through path))

theorem through_tagged (path : List String) (name : String) (attempt : Attempt) :
    (attempt.tagged name).through path = attempt.through (path ++ [name]) := by
  funext registry
  simp only [through, tagged, Action.map]
  cases (attempt registry).result with
  | ok => rfl
  | error error => simp [Except.mapError, RegistryError.through]

theorem through_nil (attempt : Attempt) : attempt.through [] = attempt := by
  funext registry
  simp only [through, Action.map]
  cases result : (attempt registry).result with
  | ok => simp [Except.mapError, ← result]
  | error error => simp [Except.mapError, RegistryError.through, ← result]

theorem followedBy_assoc (first second third : Attempt) :
    (first.followedBy second).followedBy third = first.followedBy (second.followedBy third) := by
  rw [followedBy, followedBy, Action.andThen_assoc]
  congr 1
  funext result
  cases result <;> rfl

theorem followedBy_done (first : Attempt) : first.followedBy (Action.done (.ok ())) = first := by
  funext registry
  simp only [followedBy, Action.andThen]
  rcases first registry with ⟨result, after, events⟩
  cases result <;> simp [Action.done]

theorem through_followedBy (path : List String) (first second : Attempt) :
    (first.followedBy second).through path =
      (first.through path).followedBy (second.through path) := by
  funext registry
  simp only [through, followedBy, Action.map, Action.andThen]
  cases (first registry).result <;> rfl

theorem through_inOrder (path : List String) (attempts : List Attempt) :
    (inOrder attempts).through path = inOrder (attempts.map (through path)) := by
  induction attempts with
  | nil => rfl
  | cons attempt rest ih =>
      rw [inOrder, through_followedBy, ih]
      rfl

theorem inOrder_append (earlier later : List Attempt) :
    inOrder (earlier ++ later) = (inOrder earlier).followedBy (inOrder later) := by
  induction earlier with
  | nil => rfl
  | cons attempt rest ih =>
      rw [List.cons_append, inOrder, ih, inOrder, followedBy_assoc]

/-- The second of two attempts matters only where the first leaves things when it succeeds. -/
theorem followedBy_congr {first second third fourth : Attempt} {registry : Registry}
    (same : first registry = second registry)
    (sameLater : (second registry).result = .ok () →
      third (second registry).registry = fourth (second registry).registry) :
    first.followedBy third registry = second.followedBy fourth registry := by
  simp only [followedBy, Action.andThen, same]
  cases result : (second registry).result with
  | ok => simp only [sameLater result]
  | error error => rfl

end Attempt

open Attempt

/-! ### Steps -/

namespace Deed

def attempt : Deed → Attempt
  | register source target converter => Registry.register source target converter
  | call operation => operation.perform.map .ok
  | fail error => Action.done (.error error)

def made : Deed → Nat
  | call .takeIdentity => 1
  | _ => 0

end Deed

/-- Takes steps from first to last, up to the first that fails. -/
def runSteps (steps : List ScriptStep) : Attempt :=
  inOrder (steps.map fun step => step.deed.attempt.through step.path)

theorem runSteps_append (earlier later : List ScriptStep) :
    runSteps (earlier ++ later) = (runSteps earlier).followedBy (runSteps later) := by
  rw [runSteps, List.map_append, inOrder_append]
  rfl

theorem runSteps_singleton (path : List String) (deed : Deed) :
    runSteps [⟨path, deed⟩] = deed.attempt.through path :=
  followedBy_done _

def madeIn (steps : List ScriptStep) : Nat :=
  steps.foldr (fun step total => step.deed.made + total) 0

theorem Operation.serial_perform (operation : Operation) (registry : Registry) :
    (operation.perform registry).registry.serial =
      registry.serial + (Deed.call operation).made := by
  cases operation with
  | register source target converter =>
      rcases Registry.register_frame source target converter registry with ⟨table, remembers⟩
      exact remembers.serial
  | registerForAll sources target converter =>
      rcases Registry.registerForAll_frame target converter sources registry with
        ⟨table, remembers⟩
      exact remembers.serial
  | declare declaration => rfl
  | declareAll declarations => rfl
  | registerRule rule => rfl
  | takeIdentity => rfl
  | _ => exact (perform_onlyAsks rfl registry).serial

theorem Deed.serial_attempt (deed : Deed) (registry : Registry) :
    (deed.attempt registry).registry.serial = registry.serial + deed.made := by
  cases deed with
  | register source target converter =>
      rcases Registry.register_frame source target converter registry with ⟨table, remembers⟩
      exact remembers.serial
  | call operation => exact operation.serial_perform registry
  | fail error => rfl

theorem serial_runSteps {steps : List ScriptStep} {registry : Registry}
    (succeeded : (runSteps steps registry).result = .ok ()) :
    (runSteps steps registry).registry.serial = registry.serial + madeIn steps := by
  induction steps generalizing registry with
  | nil => rfl
  | cons step rest ih =>
      have first := step.deed.serial_attempt registry
      have unfolded : runSteps (step :: rest) =
          (step.deed.attempt.through step.path).followedBy (runSteps rest) := rfl
      cases result : (step.deed.attempt.through step.path registry).result with
      | error error =>
          simp only [unfolded, followedBy, Action.andThen, result] at succeeded
          cases succeeded
      | ok =>
          simp only [unfolded, followedBy, Action.andThen, result] at succeeded ⊢
          rw [ih succeeded]
          simp [through, Action.map, first, madeIn, Nat.add_assoc]

/-! ### Unrolling -/

namespace Supply

/-- The steps of making what is filed, when it does not exist yet. -/
def making {Object Content : Type} (path : List String) : Supply Object Content → List ScriptStep
  | existing _ => []
  | anew _ => [⟨path, .call .takeIdentity⟩]

/-- The converter that is filed, when the next object has this serial number. -/
def converterAt (serial : Nat) : Supply Converter Behavior → Converter
  | existing converter => converter
  | anew behavior => ⟨.made serial, behavior⟩

def ruleAt (serial : Nat) : Supply Rule RuleBody → Rule
  | existing rule => rule
  | anew body => ⟨.made serial, body⟩

end Supply

mutual

/-- The steps of an instruction, when the next object has this serial number. -/
def Instruction.unroll (path : List String) (serial : Nat) : Instruction → List ScriptStep
  | .declare declaration => [⟨path, .call (.declare declaration)⟩]
  | .declareAll declarations => [⟨path, .call (.declareAll declarations)⟩]
  | .register source target supply =>
      supply.making path ++ [⟨path, .register source target (supply.converterAt serial)⟩]
  | .registerForAll sources target supply =>
      supply.making path ++
        sources.map fun source => ⟨path, .register source target (supply.converterAt serial)⟩
  | .registerRule supply =>
      supply.making path ++ [⟨path, .call (.registerRule (supply.ruleAt serial))⟩]
  | .ask question => [⟨path, .call (.ofQuestion question)⟩]
  | .run name script => unrollAll (path ++ [name]) serial script
  | .later instruction => (instruction ()).unroll path serial
  | .fail error => [⟨path, .fail error⟩]

def unrollAll (path : List String) (serial : Nat) : List Instruction → List ScriptStep
  | [] => []
  | instruction :: rest =>
      let steps := instruction.unroll path serial
      steps ++ unrollAll path (serial + madeIn steps) rest

end

/-- The steps of registrars that are run one after another. -/
def Registrar.unroll (serial : Nat) (registrars : List Registrar) : List ScriptStep :=
  unrollAll [] serial (registrars.map asInstruction)

variable {path : List String} {steps : List ScriptStep} {registry : Registry}

/-- An object that is made anew is known by the serial number before. -/
theorem through_nextIdentity {α : Type} (make : Identity → α) (next : α → Attempt)
    (same : ∀ after, (next (make (.made registry.serial))).through path after =
      runSteps steps after) :
    Attempt.through path ((Registry.nextIdentity.map make).andThen next) registry =
      runSteps (⟨path, .call .takeIdentity⟩ :: steps) registry := by
  have making : Attempt.through path ((Registry.nextIdentity.map make).andThen next) registry =
      (next (make (.made registry.serial))).through path
        { registry with serial := registry.serial + 1 } := rfl
  rw [making, same]
  rfl

theorem through_converter (supply : Supply Converter Behavior) (next : Converter → Attempt)
    (same : ∀ after, (next (supply.converterAt registry.serial)).through path after =
      runSteps steps after) :
    Attempt.through path (supply.converter.andThen next) registry =
      runSteps (supply.making path ++ steps) registry := by
  cases supply with
  | existing converter => exact same registry
  | anew behavior => exact through_nextIdentity _ next same

theorem through_rule (supply : Supply Rule RuleBody) (next : Rule → Attempt)
    (same : ∀ after, (next (supply.ruleAt registry.serial)).through path after =
      runSteps steps after) :
    Attempt.through path (supply.rule.andThen next) registry =
      runSteps (supply.making path ++ steps) registry := by
  cases supply with
  | existing rule => exact same registry
  | anew body => exact through_nextIdentity _ next same

theorem through_registerForAll (sources : List TypeKey) (target : TypeKey)
    (converter : Converter) :
    (Registry.registerForAll sources target converter).through path =
      runSteps (sources.map fun source => ⟨path, .register source target converter⟩) := by
  simp [Registry.registerForAll, through_inOrder, runSteps, Function.comp_def, Deed.attempt]

mutual

theorem Instruction.perform_eq_runSteps (instruction : Instruction) (path : List String)
    (registry : Registry) :
    instruction.perform.through path registry =
      runSteps (instruction.unroll path registry.serial) registry := by
  cases instruction with
  | declare declaration => rw [Instruction.unroll, runSteps_singleton]; rfl
  | declareAll declarations => rw [Instruction.unroll, runSteps_singleton]; rfl
  | register source target supply =>
      refine through_converter supply _ ?_
      intro after
      rw [runSteps_singleton]
      rfl
  | registerForAll sources target supply =>
      refine through_converter supply _ ?_
      intro after
      rw [through_registerForAll]
  | registerRule supply =>
      refine through_rule supply _ ?_
      intro after
      rw [runSteps_singleton]
      rfl
  | ask question =>
      rw [Instruction.unroll, runSteps_singleton, Deed.attempt, Operation.perform_ofQuestion]
      rfl
  | run name script =>
      rw [Instruction.perform, through_tagged]
      exact performAll_eq_runSteps script (path ++ [name]) registry
  | later instruction => exact (instruction ()).perform_eq_runSteps path registry
  | fail error => rw [Instruction.unroll, runSteps_singleton]; rfl

theorem performAll_eq_runSteps (script : List Instruction) (path : List String)
    (registry : Registry) :
    (performAll script).through path registry =
      runSteps (unrollAll path registry.serial script) registry := by
  cases script with
  | nil => rfl
  | cons instruction rest =>
      rw [performAll, through_followedBy, unrollAll, runSteps_append]
      refine followedBy_congr (instruction.perform_eq_runSteps path registry) ?_
      intro succeeded
      rw [← serial_runSteps succeeded]
      exact performAll_eq_runSteps rest path _

end

theorem runAll_eq_performAll (registrars : List Registrar) :
    Registry.runAll registrars = performAll (registrars.map Registrar.asInstruction) := by
  induction registrars with
  | nil => rfl
  | cons registrar rest ih =>
      rw [List.map_cons, performAll, ← ih]
      rfl

theorem runAll_eq_runSteps (registrars : List Registrar) (registry : Registry) :
    Registry.runAll registrars registry =
      runSteps (Registrar.unroll registry.serial registrars) registry := by
  rw [runAll_eq_performAll, Registrar.unroll, ← performAll_eq_runSteps, through_nil]

/-! ### One run for each registrar -/

/-- Whether these are the steps of a registrar, from some serial number on. -/
def Registrar.IsRun (registrar : Registrar) (steps : List ScriptStep) : Prop :=
  ∃ serial, steps = unrollAll [registrar.name] serial registrar.script

/-- The steps of registrars that are run one after another are the runs of the registrars, one for
each of them and in their order. -/
theorem Registrar.exists_unroll_eq_flatten (serial : Nat) (registrars : List Registrar) :
    ∃ runs, List.Forall₂ IsRun registrars runs ∧ unroll serial registrars = runs.flatten := by
  induction registrars generalizing serial with
  | nil => exact ⟨[], .nil, rfl⟩
  | cons registrar rest ih =>
      have first : registrar.asInstruction.unroll [] serial =
          unrollAll [registrar.name] serial registrar.script := by
        rw [asInstruction, Instruction.unroll, List.nil_append]
      obtain ⟨runs, areRuns, isUnrolled⟩ :=
        ih (serial + madeIn (registrar.asInstruction.unroll [] serial))
      refine ⟨_ :: runs, .cons ⟨serial, first⟩ areRuns, ?_⟩
      rw [List.flatten_cons, ← isUnrolled, unroll, List.map_cons, unrollAll]
      rfl

/-- Registrars are run one after another, each of them once, up to the first step that fails. -/
theorem exists_runs_runAll (registrars : List Registrar) (registry : Registry) :
    ∃ runs, List.Forall₂ Registrar.IsRun registrars runs ∧
      Registry.runAll registrars registry = runSteps runs.flatten registry := by
  obtain ⟨runs, areRuns, isUnrolled⟩ :=
    Registrar.exists_unroll_eq_flatten registry.serial registrars
  refine ⟨runs, areRuns, ?_⟩
  rw [runAll_eq_runSteps, isUnrolled]

end Conversion
